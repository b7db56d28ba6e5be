import MetesBounds.Text.Encoding.Grid

/-!
# `Text/Encoding/Grid/Gbk` — what GBK and GB 18030 add to GB 2312

Both have rows of one hundred and ninety cells. GBK adds signs, and ideographs of which most are
those of the first block that GB 2312 lacks, in order; GB 18030 adds more signs and characters for
private use.
-/

set_option autoImplicit false

namespace MetesBounds.Text.Grid

/-- What GBK adds, without the ideographs in order. Four signs of GB 2312 change. -/
def gbkSigns : Grid := .ofSegments 190 [
  .listed 6179 ["·\ufffe\ufffe\ufffe\ufffe\ufffe—"],
  .listed 6366 ["ⅰⅱⅲⅳⅴⅵⅶⅷⅸⅹ"],
  .listed 7189 ["︵︶︹︺︿﹀︽︾﹁﹂﹃﹄\ufffe\ufffe︻︼︷︸︱\ufffe︳︴"],
  .listed 7410 ["ˊˋ˙–―‥‵℅℉↖↗↘↙∕∟∣≒≦≧⊿"],
  .rising 7430 0x2550 36,
  .listed 7466 ["▁▂▃▄▅▆▇█▉▊▋▌▍▎▏▓▔▕▼▽◢◣◤◥☉⊕〒〝〞"],
  .listed 7532 ["ɑ\ufffeńň\ufffeɡ"],
  .listed 7600 [
    "〡〢〣〤〥〦〧〨〩㊣㎎㎏㎜㎝㎞㎡㏄㏎㏑㏒㏕︰￢￤\ufffe℡㈱\ufffe‐\ufffe\ufffe\ufffeー゛゜ヽ",
    "ヾ〆ゝゞ﹉﹊﹋﹌﹍﹎﹏﹐﹑﹒﹔﹕﹖﹗﹙﹚﹛﹜﹝﹞﹟﹠﹡﹢﹣﹤﹥﹦﹨﹩﹪﹫"],
  .listed 7685 ["〇"],
  .listed 23651 ["郎凉秊裏隣"],
  .listed 23750 ["兀嗀﨎﨏﨑﨓﨔礼﨟蘒﨡﨣﨤﨧﨨﨩"]
]

/-- What GB 18030 adds to GBK. -/
def gb18030Signs : Grid := .ofSegments 190 [
  .rising 6080 0xE4C6 96,
  .rising 6270 0xE526 96,
  .listed 6376 ["\ue766\ue767\ue768\ue769\ue76a\ue76b"],
  .listed 6432 ["€\ue76d"],
  .listed 6444 ["\ue76e\ue76f"],
  .listed 6458 ["\ue770\ue771"],
  .rising 6460 0xE586 96,
  .rising 6650 0xE5E6 96,
  .listed 6829 ["\ue772\ue773\ue774\ue775\ue776\ue777\ue778\ue779\ue77a\ue77b\ue77c"],
  .rising 6840 0xE646 96,
  .listed 7022 ["\ue77d\ue77e\ue77f\ue780\ue781\ue782\ue783\ue784"],
  .rising 7030 0xE6A6 96,
  .listed 7150 ["\ue785\ue786\ue787\ue788\ue789\ue78a\ue78b\ue78c"],
  .listed 7182 ["\ue78d\ue78e\ue78f\ue790\ue791\ue792\ue793"],
  .listed 7201 [
    "\ue794\ue795\ufffe\ufffe\ufffe\ufffe\ufffe\ue796\ufffe\ufffe\ue797\ue798\ue799\ue79a\ue79b",
    "\ue79c\ue79d\ue79e\ue79f"],
  .rising 7220 0xE706 96,
  .listed 7349 [
    "\ue7a0\ue7a1\ue7a2\ue7a3\ue7a4\ue7a5\ue7a6\ue7a7\ue7a8\ue7a9\ue7aa\ue7ab\ue7ac\ue7ad\ue7ae"],
  .listed 7397 [
    "\ue7af\ue7b0\ue7b1\ue7b2\ue7b3\ue7b4\ue7b5\ue7b6\ue7b7\ue7b8\ue7b9\ue7ba\ue7bb"],
  .listed 7495 ["\ue7bc\ue7bd\ue7be\ue7bf\ue7c0\ue7c1\ue7c2\ue7c3\ue7c4\ue7c5\ue7c6"],
  .listed 7533 ["\ue7c7\ufffe\ufffeǹ\ufffe\ue7c9\ue7ca\ue7cb\ue7cc"],
  .rising 7579 0xE7CD 21,
  .listed 7624 ["\ue7e2\ufffe\ufffe\ue7e3\ufffe\ue7e4\ue7e5\ue7e6"],
  .listed 7672 [
    "〾⿰⿱⿲⿳⿴⿵⿶⿷⿸⿹⿺⿻\ufffe\ue7f4\ue7f5\ue7f6\ue7f7\ue7f8\ue7f9\ue7fa\ue7fb\ue7fc\ue7fd",
    "\ue7fe\ue7ff\ue800"],
  .listed 7775 [
    "\ue801\ue802\ue803\ue804\ue805\ue806\ue807\ue808\ue809\ue80a\ue80b\ue80c\ue80d\ue80e\ue80f"],
  .rising 7886 0xE000 94,
  .rising 8076 0xE05E 94,
  .rising 8266 0xE0BC 94,
  .rising 8456 0xE11A 94,
  .rising 8646 0xE178 94,
  .rising 8836 0xE1D6 94,
  .listed 16525 ["\ue810\ue811\ue812\ue813\ue814"],
  .rising 22706 0xE234 94,
  .rising 22896 0xE292 94,
  .rising 23086 0xE2F0 94,
  .rising 23276 0xE34E 94,
  .rising 23466 0xE3AC 94,
  .rising 23656 0xE40A 94,
  .listed 23766 [
    "⺁\ue816\ue817\ue818⺄㑳㑇⺈⺋\ue81e㖞㘚㘎⺌⺗㥮㤘\ue826㧏㧟㩳㧐\ue82b\ue82c㭎㱮㳠⺧\ue831",
    "\ue832⺪䁖䅟⺮䌷⺳⺶⺷\ue83b䎱䎬⺻䏝䓖䙡䙌\ue843䜣䜩䝼䞍⻊䥇䥺䥽䦂䦃䦅䦆䦟䦛䦷䦶\ue854\ue855",
    "䲣䲟䲠䲡䱷䲢䴓䴔䴕䴖䴗䴘䴙䶮\ue864"],
  .rising 23846 0xE468 94
]

end MetesBounds.Text.Grid
