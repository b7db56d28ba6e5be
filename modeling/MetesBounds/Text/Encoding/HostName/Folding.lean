import MetesBounds.Text.CodeRanges
import MetesBounds.Text.Pieces

/-!
# `Text/Encoding/HostName/Folding` — characters that count as others

Two names of hosts are the same if they differ in the case of letters, in how characters are put
together, or in how wide or ornate they are. Each character counts as one or several others, with
marks apart from their letters. Many follow each other as their small or plain letters do; the
others are listed, neighbours with a bar between them.
-/

set_option autoImplicit false

namespace MetesBounds.Text.HostName

/-- Characters that follow each other as others do: the first and the last code, the step between
neighbours, and what the first counts as. -/
def alike : List (Nat × Nat × Nat × Nat) := [
  (0x41, 0x5A, 1, 0x61), (0x246, 0x24E, 2, 0x247), (0x391, 0x3A1, 1, 0x3B1),
  (0x3A3, 0x3A9, 1, 0x3C3), (0x3D8, 0x3EE, 2, 0x3D9), (0x408, 0x40B, 1, 0x458),
  (0x410, 0x418, 1, 0x430), (0x41A, 0x42F, 1, 0x43A), (0x460, 0x474, 2, 0x461),
  (0x478, 0x480, 2, 0x479), (0x48A, 0x4BE, 2, 0x48B), (0x4C3, 0x4CD, 2, 0x4C4),
  (0x4FA, 0x52E, 2, 0x4FB), (0x531, 0x556, 1, 0x561), (0x10A0, 0x10C5, 1, 0x2D00),
  (0x13A0, 0x13EF, 1, 0xAB70), (0x13F0, 0x13F5, 1, 0x13F8), (0x1C90, 0x1CBA, 1, 0x10D0),
  (0x2074, 0x2079, 1, 0x34), (0x2080, 0x2089, 1, 0x30), (0x2135, 0x2138, 1, 0x5D0),
  (0x2460, 0x2468, 1, 0x31), (0x24B6, 0x24CF, 1, 0x61), (0x24D0, 0x24E9, 1, 0x61),
  (0x2C00, 0x2C2F, 1, 0x2C30), (0x2C80, 0x2CE2, 2, 0x2C81), (0x313A, 0x313F, 1, 0x11B0),
  (0x3145, 0x314E, 1, 0x1109), (0x314F, 0x3163, 1, 0x1161), (0x3178, 0x317C, 1, 0x112B),
  (0x3269, 0x326D, 1, 0x110E), (0x32E4, 0x32E9, 1, 0x30CA), (0x32EE, 0x32F2, 1, 0x30DE),
  (0x32F5, 0x32FA, 1, 0x30E8), (0x32FB, 0x32FE, 1, 0x30EF), (0xA640, 0xA66C, 2, 0xA641),
  (0xA680, 0xA69A, 2, 0xA681), (0xA722, 0xA72E, 2, 0xA723), (0xA732, 0xA76E, 2, 0xA733),
  (0xA77E, 0xA786, 2, 0xA77F), (0xA796, 0xA7A8, 2, 0xA797), (0xA7B4, 0xA7C2, 2, 0xA7B5),
  (0xFE41, 0xFE44, 1, 0x300C), (0xFF01, 0xFF20, 1, 0x21), (0xFF21, 0xFF3A, 1, 0x61),
  (0xFF3B, 0xFF5E, 1, 0x5B), (0xFF85, 0xFF8A, 1, 0x30CA), (0xFF8F, 0xFF93, 1, 0x30DE),
  (0xFF96, 0xFF9B, 1, 0x30E8), (0xFFAA, 0xFFAF, 1, 0x11B0), (0xFFB5, 0xFFBE, 1, 0x1109),
  (0xFFC2, 0xFFC7, 1, 0x1161), (0xFFCA, 0xFFCF, 1, 0x1167), (0xFFD2, 0xFFD7, 1, 0x116D),
  (0xFFE9, 0xFFEC, 1, 0x2190), (0x10400, 0x10427, 1, 0x10428), (0x104B0, 0x104D3, 1, 0x104D8),
  (0x10570, 0x1057A, 1, 0x10597), (0x1057C, 0x1058A, 1, 0x105A3), (0x1058C, 0x10592, 1, 0x105B3),
  (0x10C80, 0x10CB2, 1, 0x10CC0), (0x118A0, 0x118BF, 1, 0x118C0), (0x16E40, 0x16E5F, 1, 0x16E60),
  (0x1D400, 0x1D419, 1, 0x61), (0x1D41A, 0x1D433, 1, 0x61), (0x1D434, 0x1D44D, 1, 0x61),
  (0x1D44E, 0x1D454, 1, 0x61), (0x1D456, 0x1D467, 1, 0x69), (0x1D468, 0x1D481, 1, 0x61),
  (0x1D482, 0x1D49B, 1, 0x61), (0x1D4A9, 0x1D4AC, 1, 0x6E), (0x1D4AE, 0x1D4B5, 1, 0x73),
  (0x1D4B6, 0x1D4B9, 1, 0x61), (0x1D4C5, 0x1D4CF, 1, 0x70), (0x1D4D0, 0x1D4E9, 1, 0x61),
  (0x1D4EA, 0x1D503, 1, 0x61), (0x1D507, 0x1D50A, 1, 0x64), (0x1D50D, 0x1D514, 1, 0x6A),
  (0x1D516, 0x1D51C, 1, 0x73), (0x1D51E, 0x1D537, 1, 0x61), (0x1D53B, 0x1D53E, 1, 0x64),
  (0x1D540, 0x1D544, 1, 0x69), (0x1D54A, 0x1D550, 1, 0x73), (0x1D552, 0x1D56B, 1, 0x61),
  (0x1D56C, 0x1D585, 1, 0x61), (0x1D586, 0x1D59F, 1, 0x61), (0x1D5A0, 0x1D5B9, 1, 0x61),
  (0x1D5BA, 0x1D5D3, 1, 0x61), (0x1D5D4, 0x1D5ED, 1, 0x61), (0x1D5EE, 0x1D607, 1, 0x61),
  (0x1D608, 0x1D621, 1, 0x61), (0x1D622, 0x1D63B, 1, 0x61), (0x1D63C, 0x1D655, 1, 0x61),
  (0x1D656, 0x1D66F, 1, 0x61), (0x1D670, 0x1D689, 1, 0x61), (0x1D68A, 0x1D6A3, 1, 0x61),
  (0x1D6A8, 0x1D6B8, 1, 0x3B1), (0x1D6BA, 0x1D6C0, 1, 0x3C3), (0x1D6C2, 0x1D6D2, 1, 0x3B1),
  (0x1D6D4, 0x1D6DA, 1, 0x3C3), (0x1D6E2, 0x1D6F2, 1, 0x3B1), (0x1D6F4, 0x1D6FA, 1, 0x3C3),
  (0x1D6FC, 0x1D70C, 1, 0x3B1), (0x1D70E, 0x1D714, 1, 0x3C3), (0x1D71C, 0x1D72C, 1, 0x3B1),
  (0x1D72E, 0x1D734, 1, 0x3C3), (0x1D736, 0x1D746, 1, 0x3B1), (0x1D748, 0x1D74E, 1, 0x3C3),
  (0x1D756, 0x1D766, 1, 0x3B1), (0x1D768, 0x1D76E, 1, 0x3C3), (0x1D770, 0x1D780, 1, 0x3B1),
  (0x1D782, 0x1D788, 1, 0x3C3), (0x1D790, 0x1D7A0, 1, 0x3B1), (0x1D7A2, 0x1D7A8, 1, 0x3C3),
  (0x1D7AA, 0x1D7BA, 1, 0x3B1), (0x1D7BC, 0x1D7C2, 1, 0x3C3), (0x1D7CE, 0x1D7D7, 1, 0x30),
  (0x1D7D8, 0x1D7E1, 1, 0x30), (0x1D7E2, 0x1D7EB, 1, 0x30), (0x1D7EC, 0x1D7F5, 1, 0x30),
  (0x1D7F6, 0x1D7FF, 1, 0x30), (0x1E900, 0x1E921, 1, 0x1E922)
]

/-- Characters with consecutive codes, and in rows what they count as. -/
def counted : List (Nat × List String) := [
  (0xA0, [" "]),
  (0xA8, [" \u0308"]),
  (0xAA, ["a"]),
  (0xAF, [" \u0304"]),
  (0xB2, ["2|3| \u0301|μ"]),
  (0xB8, [" \u0327|1|o"]),
  (0xBC, ["1⁄4|1⁄2|3⁄4"]),
  (0xC0, ["a\u0300|a\u0301|a\u0302|a\u0303|a\u0308|a\u030a|æ|c\u0327|e\u0300|e\u0301|e\u0302|e",
    "\u0308|i\u0300|i\u0301|i\u0302|i\u0308|ð|n\u0303|o\u0300|o\u0301|o\u0302|o\u0303|o\u0308"]),
  (0xD8, ["ø|u\u0300|u\u0301|u\u0302|u\u0308|y\u0301|þ|ss|a\u0300|a\u0301|a\u0302|a\u0303|a\u0308|",
    "a\u030a"]),
  (0xE7, ["c\u0327|e\u0300|e\u0301|e\u0302|e\u0308|i\u0300|i\u0301|i\u0302|i\u0308"]),
  (0xF1, ["n\u0303|o\u0300|o\u0301|o\u0302|o\u0303|o\u0308"]),
  (0xF9, ["u\u0300|u\u0301|u\u0302|u\u0308|y\u0301"]),
  (0xFF, ["y\u0308|a\u0304|a\u0304|a\u0306|a\u0306|a\u0328|a\u0328|c\u0301|c\u0301|c\u0302|c\u0302",
    "|c\u0307|c\u0307|c\u030c|c\u030c|d\u030c|d\u030c|đ"]),
  (0x112, ["e\u0304|e\u0304|e\u0306|e\u0306|e\u0307|e\u0307|e\u0328|e\u0328|e\u030c|e\u030c|g",
    "\u0302|g\u0302|g\u0306|g\u0306|g\u0307|g\u0307|g\u0327|g\u0327|h\u0302|h\u0302|ħ"]),
  (0x128, ["i\u0303|i\u0303|i\u0304|i\u0304|i\u0306|i\u0306|i\u0328|i\u0328|i\u0307"]),
  (0x132, ["ij|ij|j\u0302|j\u0302|k\u0327|k\u0327"]),
  (0x139, ["l\u0301|l\u0301|l\u0327|l\u0327|l\u030c|l\u030c|l·|l·|ł"]),
  (0x143, ["n\u0301|n\u0301|n\u0327|n\u0327|n\u030c|n\u030c|ʼn|ŋ"]),
  (0x14C, ["o\u0304|o\u0304|o\u0306|o\u0306|o\u030b|o\u030b|œ"]),
  (0x154, ["r\u0301|r\u0301|r\u0327|r\u0327|r\u030c|r\u030c|s\u0301|s\u0301|s\u0302|s\u0302|s",
    "\u0327|s\u0327|s\u030c|s\u030c|t\u0327|t\u0327|t\u030c|t\u030c|ŧ"]),
  (0x168, ["u\u0303|u\u0303|u\u0304|u\u0304|u\u0306|u\u0306|u\u030a|u\u030a|u\u030b|u\u030b|u",
    "\u0328|u\u0328|w\u0302|w\u0302|y\u0302|y\u0302|y\u0308|z\u0301|z\u0301|z\u0307|z\u0307|z",
    "\u030c|z\u030c|s"]),
  (0x181, ["ɓ|ƃ"]),
  (0x184, ["ƅ"]),
  (0x186, ["ɔ|ƈ"]),
  (0x189, ["ɖ|ɗ|ƌ"]),
  (0x18E, ["ǝ|ə|ɛ|ƒ"]),
  (0x193, ["ɠ|ɣ"]),
  (0x196, ["ɩ|ɨ|ƙ"]),
  (0x19C, ["ɯ|ɲ"]),
  (0x19F, ["ɵ|o\u031b|o\u031b|ƣ"]),
  (0x1A4, ["ƥ"]),
  (0x1A6, ["ʀ|ƨ"]),
  (0x1A9, ["ʃ"]),
  (0x1AC, ["ƭ"]),
  (0x1AE, ["ʈ|u\u031b|u\u031b|ʊ|ʋ|ƴ"]),
  (0x1B5, ["ƶ"]),
  (0x1B7, ["ʒ|ƹ"]),
  (0x1BC, ["ƽ"]),
  (0x1C4, ["dz\u030c|dz\u030c|dz\u030c|lj|lj|lj|nj|nj|nj|a\u030c|a\u030c|i\u030c|i\u030c|o\u030c|o",
    "\u030c|u\u030c|u\u030c|u\u0308\u0304|u\u0308\u0304|u\u0308\u0301|u\u0308\u0301|u\u0308\u030c|",
    "u\u0308\u030c|u\u0308\u0300|u\u0308\u0300"]),
  (0x1DE, ["a\u0308\u0304|a\u0308\u0304|a\u0307\u0304|a\u0307\u0304|æ\u0304|æ\u0304|ǥ"]),
  (0x1E6, ["g\u030c|g\u030c|k\u030c|k\u030c|o\u0328|o\u0328|o\u0328\u0304|o\u0328\u0304|ʒ\u030c|ʒ",
    "\u030c|j\u030c|dz|dz|dz|g\u0301|g\u0301|ƕ|ƿ|n\u0300|n\u0300|a\u030a\u0301|a\u030a\u0301|æ",
    "\u0301|æ\u0301|ø\u0301|ø\u0301|a\u030f|a\u030f|a\u0311|a\u0311|e\u030f|e\u030f|e\u0311|e",
    "\u0311|i\u030f|i\u030f|i\u0311|i\u0311|o\u030f|o\u030f|o\u0311|o\u0311|r\u030f|r\u030f|r",
    "\u0311|r\u0311|u\u030f|u\u030f|u\u0311|u\u0311|s\u0326|s\u0326|t\u0326|t\u0326|ȝ"]),
  (0x21E, ["h\u030c|h\u030c|ƞ"]),
  (0x222, ["ȣ"]),
  (0x224, ["ȥ"]),
  (0x226, ["a\u0307|a\u0307|e\u0327|e\u0327|o\u0308\u0304|o\u0308\u0304|o\u0303\u0304|o\u0303",
    "\u0304|o\u0307|o\u0307|o\u0307\u0304|o\u0307\u0304|y\u0304|y\u0304"]),
  (0x23A, ["ⱥ|ȼ"]),
  (0x23D, ["ƚ|ⱦ"]),
  (0x241, ["ɂ"]),
  (0x243, ["ƀ|ʉ|ʌ"]),
  (0x2B0, ["h|ɦ|j|r|ɹ|ɻ|ʁ|w|y"]),
  (0x2D8, [" \u0306| \u0307| \u030a| \u0328| \u0303| \u030b"]),
  (0x2E0, ["ɣ|l|s|x|ʕ"]),
  (0x340, ["\u0300|\u0301"]),
  (0x343, ["\u0313|\u0308\u0301|ι"]),
  (0x370, ["ͱ"]),
  (0x372, ["ͳ"]),
  (0x374, ["ʹ"]),
  (0x376, ["ͷ"]),
  (0x37A, [" ι"]),
  (0x37E, [";|ϳ"]),
  (0x384, [" \u0301| \u0308\u0301|α\u0301|·|ε\u0301|η\u0301|ι\u0301"]),
  (0x38C, ["ο\u0301"]),
  (0x38E, ["υ\u0301|ω\u0301|ι\u0308\u0301"]),
  (0x3AA, ["ι\u0308|υ\u0308|α\u0301|ε\u0301|η\u0301|ι\u0301|υ\u0308\u0301"]),
  (0x3C2, ["σ"]),
  (0x3CA, ["ι\u0308|υ\u0308|ο\u0301|υ\u0301|ω\u0301|ϗ|β|θ|υ|υ\u0301|υ\u0308|φ|π"]),
  (0x3F0, ["κ|ρ|σ"]),
  (0x3F4, ["θ|ε"]),
  (0x3F7, ["ϸ"]),
  (0x3F9, ["σ|ϻ"]),
  (0x3FD, ["ͻ|ͼ|ͽ|е\u0300|е\u0308|ђ|г\u0301|є|ѕ|і|і\u0308"]),
  (0x40C, ["к\u0301|и\u0300|у\u0306|џ"]),
  (0x419, ["и\u0306"]),
  (0x439, ["и\u0306"]),
  (0x450, ["е\u0300|е\u0308"]),
  (0x453, ["г\u0301"]),
  (0x457, ["і\u0308"]),
  (0x45C, ["к\u0301|и\u0300|у\u0306"]),
  (0x476, ["ѵ\u030f|ѵ\u030f"]),
  (0x4C0, ["ӏ|ж\u0306|ж\u0306"]),
  (0x4D0, ["а\u0306|а\u0306|а\u0308|а\u0308|ӕ"]),
  (0x4D6, ["е\u0306|е\u0306|ә"]),
  (0x4DA, ["ә\u0308|ә\u0308|ж\u0308|ж\u0308|з\u0308|з\u0308|ӡ"]),
  (0x4E2, ["и\u0304|и\u0304|и\u0308|и\u0308|о\u0308|о\u0308|ө"]),
  (0x4EA, ["ө\u0308|ө\u0308|э\u0308|э\u0308|у\u0304|у\u0304|у\u0308|у\u0308|у\u030b|у\u030b|ч",
    "\u0308|ч\u0308|ӷ"]),
  (0x4F8, ["ы\u0308|ы\u0308"]),
  (0x587, ["եւ"]),
  (0x622, ["\u0627\u0653|\u0627\u0654|\u0648\u0654|\u0627\u0655|\u064a\u0654"]),
  (0x675, ["\u0627\u0674|\u0648\u0674|\u06c7\u0674|\u064a\u0674"]),
  (0x6C0, ["\u06d5\u0654"]),
  (0x6C2, ["\u06c1\u0654"]),
  (0x6D3, ["\u06d2\u0654"]),
  (0x929, ["न\u093c"]),
  (0x931, ["र\u093c"]),
  (0x934, ["ळ\u093c"]),
  (0x958, ["क\u093c|ख\u093c|ग\u093c|ज\u093c|ड\u093c|ढ\u093c|फ\u093c|य\u093c"]),
  (0x9CB, ["\u09c7\u09be|\u09c7\u09d7"]),
  (0x9DC, ["ড\u09bc|ঢ\u09bc"]),
  (0x9DF, ["য\u09bc"]),
  (0xA33, ["ਲ\u0a3c"]),
  (0xA36, ["ਸ\u0a3c"]),
  (0xA59, ["ਖ\u0a3c|ਗ\u0a3c|ਜ\u0a3c"]),
  (0xA5E, ["ਫ\u0a3c"]),
  (0xB48, ["\u0b47\u0b56"]),
  (0xB4B, ["\u0b47\u0b3e|\u0b47\u0b57"]),
  (0xB5C, ["ଡ\u0b3c|ଢ\u0b3c"]),
  (0xB94, ["ஒ\u0bd7"]),
  (0xBCA, ["\u0bc6\u0bbe|\u0bc7\u0bbe|\u0bc6\u0bd7"]),
  (0xC48, ["\u0c46\u0c56"]),
  (0xCC0, ["\u0cbf\u0cd5"]),
  (0xCC7, ["\u0cc6\u0cd5|\u0cc6\u0cd6"]),
  (0xCCA, ["\u0cc6\u0cc2|\u0cc6\u0cc2\u0cd5"]),
  (0xD4A, ["\u0d46\u0d3e|\u0d47\u0d3e|\u0d46\u0d57"]),
  (0xDDA, ["\u0dd9\u0dca"]),
  (0xDDC, ["\u0dd9\u0dcf|\u0dd9\u0dcf\u0dca|\u0dd9\u0ddf"]),
  (0xE33, ["\u0e4dา"]),
  (0xEB3, ["\u0ecdາ"]),
  (0xEDC, ["ຫນ|ຫມ"]),
  (0xF0C, ["་"]),
  (0xF43, ["ག\u0fb7"]),
  (0xF4D, ["ཌ\u0fb7"]),
  (0xF52, ["ད\u0fb7"]),
  (0xF57, ["བ\u0fb7"]),
  (0xF5C, ["ཛ\u0fb7"]),
  (0xF69, ["ཀ\u0fb5"]),
  (0xF73, ["\u0f71\u0f72"]),
  (0xF75, ["\u0f71\u0f74|\u0fb2\u0f80|\u0fb2\u0f71\u0f80|\u0fb3\u0f80|\u0fb3\u0f71\u0f80"]),
  (0xF81, ["\u0f71\u0f80"]),
  (0xF93, ["\u0f92\u0fb7"]),
  (0xF9D, ["\u0f9c\u0fb7"]),
  (0xFA2, ["\u0fa1\u0fb7"]),
  (0xFA7, ["\u0fa6\u0fb7"]),
  (0xFAC, ["\u0fab\u0fb7"]),
  (0xFB9, ["\u0f90\u0fb5"]),
  (0x1026, ["ဥ\u102e"]),
  (0x10C7, ["ⴧ"]),
  (0x10CD, ["ⴭ"]),
  (0x1CBD, ["ჽ|ჾ|ჿ"]),
  (0x1E00, ["a\u0325|a\u0325|b\u0307|b\u0307|b\u0323|b\u0323|b\u0331|b\u0331|c\u0327\u0301|c\u0327",
    "\u0301|d\u0307|d\u0307|d\u0323|d\u0323|d\u0331|d\u0331|d\u0327|d\u0327|d\u032d|d\u032d|e",
    "\u0304\u0300|e\u0304\u0300|e\u0304\u0301|e\u0304\u0301|e\u032d|e\u032d|e\u0330|e\u0330|e",
    "\u0327\u0306|e\u0327\u0306|f\u0307|f\u0307|g\u0304|g\u0304|h\u0307|h\u0307|h\u0323|h\u0323|h",
    "\u0308|h\u0308|h\u0327|h\u0327|h\u032e|h\u032e|i\u0330|i\u0330|i\u0308\u0301|i\u0308\u0301|k",
    "\u0301|k\u0301|k\u0323|k\u0323|k\u0331|k\u0331|l\u0323|l\u0323|l\u0323\u0304|l\u0323\u0304|l",
    "\u0331|l\u0331|l\u032d|l\u032d|m\u0301|m\u0301|m\u0307|m\u0307|m\u0323|m\u0323|n\u0307|n",
    "\u0307|n\u0323|n\u0323|n\u0331|n\u0331|n\u032d|n\u032d|o\u0303\u0301|o\u0303\u0301|o\u0303",
    "\u0308|o\u0303\u0308|o\u0304\u0300|o\u0304\u0300|o\u0304\u0301|o\u0304\u0301|p\u0301|p\u0301|",
    "p\u0307|p\u0307|r\u0307|r\u0307|r\u0323|r\u0323|r\u0323\u0304|r\u0323\u0304|r\u0331|r\u0331|s",
    "\u0307|s\u0307|s\u0323|s\u0323|s\u0301\u0307|s\u0301\u0307|s\u030c\u0307|s\u030c\u0307|s",
    "\u0323\u0307|s\u0323\u0307|t\u0307|t\u0307|t\u0323|t\u0323|t\u0331|t\u0331|t\u032d|t\u032d|u",
    "\u0324|u\u0324|u\u0330|u\u0330|u\u032d|u\u032d|u\u0303\u0301|u\u0303\u0301|u\u0304\u0308|u",
    "\u0304\u0308|v\u0303|v\u0303|v\u0323|v\u0323|w\u0300|w\u0300|w\u0301|w\u0301|w\u0308|w\u0308|",
    "w\u0307|w\u0307|w\u0323|w\u0323|x\u0307|x\u0307|x\u0308|x\u0308|y\u0307|y\u0307|z\u0302|z",
    "\u0302|z\u0323|z\u0323|z\u0331|z\u0331|h\u0331|t\u0308|w\u030a|y\u030a|aʾ|s\u0307"]),
  (0x1E9E, ["ss"]),
  (0x1EA0, ["a\u0323|a\u0323|a\u0309|a\u0309|a\u0302\u0301|a\u0302\u0301|a\u0302\u0300|a\u0302",
    "\u0300|a\u0302\u0309|a\u0302\u0309|a\u0302\u0303|a\u0302\u0303|a\u0323\u0302|a\u0323\u0302|a",
    "\u0306\u0301|a\u0306\u0301|a\u0306\u0300|a\u0306\u0300|a\u0306\u0309|a\u0306\u0309|a\u0306",
    "\u0303|a\u0306\u0303|a\u0323\u0306|a\u0323\u0306|e\u0323|e\u0323|e\u0309|e\u0309|e\u0303|e",
    "\u0303|e\u0302\u0301|e\u0302\u0301|e\u0302\u0300|e\u0302\u0300|e\u0302\u0309|e\u0302\u0309|e",
    "\u0302\u0303|e\u0302\u0303|e\u0323\u0302|e\u0323\u0302|i\u0309|i\u0309|i\u0323|i\u0323|o",
    "\u0323|o\u0323|o\u0309|o\u0309|o\u0302\u0301|o\u0302\u0301|o\u0302\u0300|o\u0302\u0300|o",
    "\u0302\u0309|o\u0302\u0309|o\u0302\u0303|o\u0302\u0303|o\u0323\u0302|o\u0323\u0302|o\u031b",
    "\u0301|o\u031b\u0301|o\u031b\u0300|o\u031b\u0300|o\u031b\u0309|o\u031b\u0309|o\u031b\u0303|o",
    "\u031b\u0303|o\u031b\u0323|o\u031b\u0323|u\u0323|u\u0323|u\u0309|u\u0309|u\u031b\u0301|u",
    "\u031b\u0301|u\u031b\u0300|u\u031b\u0300|u\u031b\u0309|u\u031b\u0309|u\u031b\u0303|u\u031b",
    "\u0303|u\u031b\u0323|u\u031b\u0323|y\u0300|y\u0300|y\u0323|y\u0323|y\u0309|y\u0309|y\u0303|y",
    "\u0303|ỻ"]),
  (0x1EFC, ["ỽ"]),
  (0x1EFE, ["ỿ"]),
  (0x1F00, ["α\u0313|α\u0314|α\u0313\u0300|α\u0314\u0300|α\u0313\u0301|α\u0314\u0301|α\u0313\u0342",
    "|α\u0314\u0342|α\u0313|α\u0314|α\u0313\u0300|α\u0314\u0300|α\u0313\u0301|α\u0314\u0301|α",
    "\u0313\u0342|α\u0314\u0342|ε\u0313|ε\u0314|ε\u0313\u0300|ε\u0314\u0300|ε\u0313\u0301|ε\u0314",
    "\u0301"]),
  (0x1F18, ["ε\u0313|ε\u0314|ε\u0313\u0300|ε\u0314\u0300|ε\u0313\u0301|ε\u0314\u0301"]),
  (0x1F20, ["η\u0313|η\u0314|η\u0313\u0300|η\u0314\u0300|η\u0313\u0301|η\u0314\u0301|η\u0313\u0342",
    "|η\u0314\u0342|η\u0313|η\u0314|η\u0313\u0300|η\u0314\u0300|η\u0313\u0301|η\u0314\u0301|η",
    "\u0313\u0342|η\u0314\u0342|ι\u0313|ι\u0314|ι\u0313\u0300|ι\u0314\u0300|ι\u0313\u0301|ι\u0314",
    "\u0301|ι\u0313\u0342|ι\u0314\u0342|ι\u0313|ι\u0314|ι\u0313\u0300|ι\u0314\u0300|ι\u0313\u0301|",
    "ι\u0314\u0301|ι\u0313\u0342|ι\u0314\u0342|ο\u0313|ο\u0314|ο\u0313\u0300|ο\u0314\u0300|ο\u0313",
    "\u0301|ο\u0314\u0301"]),
  (0x1F48, ["ο\u0313|ο\u0314|ο\u0313\u0300|ο\u0314\u0300|ο\u0313\u0301|ο\u0314\u0301"]),
  (0x1F50, ["υ\u0313|υ\u0314|υ\u0313\u0300|υ\u0314\u0300|υ\u0313\u0301|υ\u0314\u0301|υ\u0313\u0342",
    "|υ\u0314\u0342"]),
  (0x1F59, ["υ\u0314"]),
  (0x1F5B, ["υ\u0314\u0300"]),
  (0x1F5D, ["υ\u0314\u0301"]),
  (0x1F5F, ["υ\u0314\u0342|ω\u0313|ω\u0314|ω\u0313\u0300|ω\u0314\u0300|ω\u0313\u0301|ω\u0314\u0301",
    "|ω\u0313\u0342|ω\u0314\u0342|ω\u0313|ω\u0314|ω\u0313\u0300|ω\u0314\u0300|ω\u0313\u0301|ω",
    "\u0314\u0301|ω\u0313\u0342|ω\u0314\u0342|α\u0300|α\u0301|ε\u0300|ε\u0301|η\u0300|η\u0301|ι",
    "\u0300|ι\u0301|ο\u0300|ο\u0301|υ\u0300|υ\u0301|ω\u0300|ω\u0301"]),
  (0x1F80, ["α\u0313ι|α\u0314ι|α\u0313\u0300ι|α\u0314\u0300ι|α\u0313\u0301ι|α\u0314\u0301ι|α\u0313",
    "\u0342ι|α\u0314\u0342ι|α\u0313ι|α\u0314ι|α\u0313\u0300ι|α\u0314\u0300ι|α\u0313\u0301ι|α\u0314",
    "\u0301ι|α\u0313\u0342ι|α\u0314\u0342ι|η\u0313ι|η\u0314ι|η\u0313\u0300ι|η\u0314\u0300ι|η\u0313",
    "\u0301ι|η\u0314\u0301ι|η\u0313\u0342ι|η\u0314\u0342ι|η\u0313ι|η\u0314ι|η\u0313\u0300ι|η\u0314",
    "\u0300ι|η\u0313\u0301ι|η\u0314\u0301ι|η\u0313\u0342ι|η\u0314\u0342ι|ω\u0313ι|ω\u0314ι|ω\u0313",
    "\u0300ι|ω\u0314\u0300ι|ω\u0313\u0301ι|ω\u0314\u0301ι|ω\u0313\u0342ι|ω\u0314\u0342ι|ω\u0313ι|ω",
    "\u0314ι|ω\u0313\u0300ι|ω\u0314\u0300ι|ω\u0313\u0301ι|ω\u0314\u0301ι|ω\u0313\u0342ι|ω\u0314",
    "\u0342ι|α\u0306|α\u0304|α\u0300ι|αι|α\u0301ι"]),
  (0x1FB6, ["α\u0342|α\u0342ι|α\u0306|α\u0304|α\u0300|α\u0301|αι| \u0313|ι| \u0313| \u0342| \u0308",
    "\u0342|η\u0300ι|ηι|η\u0301ι"]),
  (0x1FC6, ["η\u0342|η\u0342ι|ε\u0300|ε\u0301|η\u0300|η\u0301|ηι| \u0313\u0300| \u0313\u0301| ",
    "\u0313\u0342|ι\u0306|ι\u0304|ι\u0308\u0300|ι\u0308\u0301"]),
  (0x1FD6, ["ι\u0342|ι\u0308\u0342|ι\u0306|ι\u0304|ι\u0300|ι\u0301"]),
  (0x1FDD, [" \u0314\u0300| \u0314\u0301| \u0314\u0342|υ\u0306|υ\u0304|υ\u0308\u0300|υ\u0308\u0301",
    "|ρ\u0313|ρ\u0314|υ\u0342|υ\u0308\u0342|υ\u0306|υ\u0304|υ\u0300|υ\u0301|ρ\u0314| \u0308\u0300|",
    " \u0308\u0301|`"]),
  (0x1FF2, ["ω\u0300ι|ωι|ω\u0301ι"]),
  (0x1FF6, ["ω\u0342|ω\u0342ι|ο\u0300|ο\u0301|ω\u0300|ω\u0301|ωι| \u0301| \u0314"]),
  (0x2000, [" | | | | | | | | | | "]),
  (0x2011, ["\u2010"]),
  (0x2017, [" \u0333"]),
  (0x2024, [".|..|..."]),
  (0x202F, [" "]),
  (0x2033, ["′′|′′′"]),
  (0x2036, ["‵‵|‵‵‵"]),
  (0x203C, ["!!"]),
  (0x203E, [" \u0305"]),
  (0x2047, ["??|?!|!?"]),
  (0x2057, ["′′′′"]),
  (0x205F, [" "]),
  (0x2070, ["0|i"]),
  (0x207A, ["+|−|=|(|)|n"]),
  (0x208A, ["+|−|=|(|)"]),
  (0x20A8, ["rs"]),
  (0x2100, ["a/c|a/s|c|°c"]),
  (0x2105, ["c/o|c/u|ɛ"]),
  (0x2109, ["°f|g|h|h|h|h|ħ|i|i|l|l"]),
  (0x2115, ["n|no"]),
  (0x2119, ["p|q|r|r|r"]),
  (0x2120, ["sm|tel|tm"]),
  (0x2124, ["z"]),
  (0x2126, ["ω"]),
  (0x2128, ["z"]),
  (0x212A, ["k|a\u030a|b|c"]),
  (0x212F, ["e|e|f|ⅎ|m|o"]),
  (0x2139, ["i"]),
  (0x213D, ["γ|γ|π|∑"]),
  (0x2145, ["d|d|e|i|j"]),
  (0x2153, ["1⁄3|2⁄3|1⁄5|2⁄5|3⁄5|4⁄5|1⁄6|5⁄6|1⁄8|3⁄8|5⁄8|7⁄8|1⁄|i|ii|iii|iv|v|vi|vii|viii|ix|x|xi|",
    "xii|l|c|d|m|i|ii|iii|iv|v|vi|vii|viii|ix|x|xi|xii|l|c|d|m"]),
  (0x2183, ["ↄ"]),
  (0x219A, ["←\u0338|→\u0338"]),
  (0x21AE, ["↔\u0338"]),
  (0x21CD, ["⇐\u0338|⇔\u0338|⇒\u0338"]),
  (0x2204, ["∃\u0338"]),
  (0x2209, ["∈\u0338"]),
  (0x220C, ["∋\u0338"]),
  (0x2224, ["∣\u0338"]),
  (0x2226, ["∥\u0338"]),
  (0x222C, ["∫∫|∫∫∫"]),
  (0x222F, ["∮∮|∮∮∮"]),
  (0x2241, ["∼\u0338"]),
  (0x2244, ["≃\u0338"]),
  (0x2247, ["≅\u0338"]),
  (0x2249, ["≈\u0338"]),
  (0x2260, ["=\u0338"]),
  (0x2262, ["≡\u0338"]),
  (0x226D, ["≍\u0338|<\u0338|>\u0338|≤\u0338|≥\u0338"]),
  (0x2274, ["≲\u0338|≳\u0338"]),
  (0x2278, ["≶\u0338|≷\u0338"]),
  (0x2280, ["≺\u0338|≻\u0338"]),
  (0x2284, ["⊂\u0338|⊃\u0338"]),
  (0x2288, ["⊆\u0338|⊇\u0338"]),
  (0x22AC, ["⊢\u0338|⊨\u0338|⊩\u0338|⊫\u0338"]),
  (0x22E0, ["≼\u0338|≽\u0338|⊑\u0338|⊒\u0338"]),
  (0x22EA, ["⊲\u0338|⊳\u0338|⊴\u0338|⊵\u0338"]),
  (0x2329, ["〈|〉"]),
  (0x2469, ["10|11|12|13|14|15|16|17|18|19|20|(1)|(2)|(3)|(4)|(5)|(6)|(7)|(8)|(9)|(10)|(11)|(12)|(",
    "13)|(14)|(15)|(16)|(17)|(18)|(19)|(20)|1.|2.|3.|4.|5.|6.|7.|8.|9.|10.|11.|12.|13.|14.|15.|16.",
    "|17.|18.|19.|20.|(a)|(b)|(c)|(d)|(e)|(f)|(g)|(h)|(i)|(j)|(k)|(l)|(m)|(n)|(o)|(p)|(q)|(r)|(s)|",
    "(t)|(u)|(v)|(w)|(x)|(y)|(z)"]),
  (0x24EA, ["0"]),
  (0x2A0C, ["∫∫∫∫"]),
  (0x2A74, ["::=|==|==="]),
  (0x2ADC, ["⫝\u0338"]),
  (0x2C60, ["ⱡ"]),
  (0x2C62, ["ɫ|ᵽ|ɽ"]),
  (0x2C67, ["ⱨ"]),
  (0x2C69, ["ⱪ"]),
  (0x2C6B, ["ⱬ"]),
  (0x2C6D, ["ɑ|ɱ|ɐ|ɒ"]),
  (0x2C72, ["ⱳ"]),
  (0x2C75, ["ⱶ"]),
  (0x2C7E, ["ȿ|ɀ"]),
  (0x2CEB, ["ⳬ"]),
  (0x2CED, ["ⳮ"]),
  (0x2CF2, ["ⳳ"]),
  (0x2E9F, ["母"]),
  (0x2EF3, ["龟"]),
  (0x2F00, ["一|丨|丶|丿|乙|亅|二|亠|人|儿|入|八|冂|冖|冫|几|凵|刀|力|勹|匕|匚|匸|十|卜|卩|厂|厶|又|口|囗|土|士|夂|夊|夕|大|女|子|宀|寸|小|尢",
    "|尸|屮|山|巛|工|己|巾|干|幺|广|廴|廾|弋|弓|彐|彡|彳|心|戈|戶|手|支|攴|文|斗|斤|方|无|日|曰|月|木|欠|止|歹|殳|毋|比|毛|氏|气|水|火|爪|父|爻|",
    "爿|片|牙|牛|犬|玄|玉|瓜|瓦|甘|生|用|田|疋|疒|癶|白|皮|皿|目|矛|矢|石|示|禸|禾|穴|立|竹|米|糸|缶|网|羊|羽|老|而|耒|耳|聿|肉|臣|自|至|臼|舌|舛",
    "|舟|艮|色|艸|虍|虫|血|行|衣|襾|見|角|言|谷|豆|豕|豸|貝|赤|走|足|身|車|辛|辰|辵|邑|酉|釆|里|金|長|門|阜|隶|隹|雨|靑|非|面|革|韋|韭|音|頁|風|",
    "飛|食|首|香|馬|骨|高|髟|鬥|鬯|鬲|鬼|魚|鳥|鹵|鹿|麥|麻|黃|黍|黑|黹|黽|鼎|鼓|鼠|鼻|齊|齒|龍|龜|龠"]),
  (0x3000, [" "]),
  (0x3036, ["〒"]),
  (0x3038, ["十|卄|卅"]),
  (0x304C, ["か\u3099"]),
  (0x304E, ["き\u3099"]),
  (0x3050, ["く\u3099"]),
  (0x3052, ["け\u3099"]),
  (0x3054, ["こ\u3099"]),
  (0x3056, ["さ\u3099"]),
  (0x3058, ["し\u3099"]),
  (0x305A, ["す\u3099"]),
  (0x305C, ["せ\u3099"]),
  (0x305E, ["そ\u3099"]),
  (0x3060, ["た\u3099"]),
  (0x3062, ["ち\u3099"]),
  (0x3065, ["つ\u3099"]),
  (0x3067, ["て\u3099"]),
  (0x3069, ["と\u3099"]),
  (0x3070, ["は\u3099|は\u309a"]),
  (0x3073, ["ひ\u3099|ひ\u309a"]),
  (0x3076, ["ふ\u3099|ふ\u309a"]),
  (0x3079, ["へ\u3099|へ\u309a"]),
  (0x307C, ["ほ\u3099|ほ\u309a"]),
  (0x3094, ["う\u3099"]),
  (0x309B, [" \u3099| \u309a"]),
  (0x309E, ["ゝ\u3099|より"]),
  (0x30AC, ["カ\u3099"]),
  (0x30AE, ["キ\u3099"]),
  (0x30B0, ["ク\u3099"]),
  (0x30B2, ["ケ\u3099"]),
  (0x30B4, ["コ\u3099"]),
  (0x30B6, ["サ\u3099"]),
  (0x30B8, ["シ\u3099"]),
  (0x30BA, ["ス\u3099"]),
  (0x30BC, ["セ\u3099"]),
  (0x30BE, ["ソ\u3099"]),
  (0x30C0, ["タ\u3099"]),
  (0x30C2, ["チ\u3099"]),
  (0x30C5, ["ツ\u3099"]),
  (0x30C7, ["テ\u3099"]),
  (0x30C9, ["ト\u3099"]),
  (0x30D0, ["ハ\u3099|ハ\u309a"]),
  (0x30D3, ["ヒ\u3099|ヒ\u309a"]),
  (0x30D6, ["フ\u3099|フ\u309a"]),
  (0x30D9, ["ヘ\u3099|ヘ\u309a"]),
  (0x30DC, ["ホ\u3099|ホ\u309a"]),
  (0x30F4, ["ウ\u3099"]),
  (0x30F7, ["ワ\u3099|ヰ\u3099|ヱ\u3099|ヲ\u3099"]),
  (0x30FE, ["ヽ\u3099|コト"]),
  (0x3131, ["ᄀ|ᄁ|ᆪ|ᄂ|ᆬ|ᆭ|ᄃ|ᄄ|ᄅ"]),
  (0x3140, ["ᄚ|ᄆ|ᄇ|ᄈ|ᄡ"]),
  (0x3164, ["ᅠ|ᄔ|ᄕ|ᇇ|ᇈ|ᇌ|ᇎ|ᇓ|ᇗ|ᇙ|ᄜ|ᇝ|ᇟ|ᄝ|ᄞ|ᄠ|ᄢ|ᄣ|ᄧ|ᄩ"]),
  (0x317D, ["ᄲ|ᄶ|ᅀ|ᅇ|ᅌ|ᇱ|ᇲ|ᅗ|ᅘ|ᅙ|ᆄ|ᆅ|ᆈ|ᆑ|ᆒ|ᆔ|ᆞ|ᆡ"]),
  (0x3192, ["一|二|三|四|上|中|下|甲|乙|丙|丁|天|地|人"]),
  (0x3200, ["(ᄀ)|(ᄂ)|(ᄃ)|(ᄅ)|(ᄆ)|(ᄇ)|(ᄉ)|(ᄋ)|(ᄌ)|(ᄎ)|(ᄏ)|(ᄐ)|(ᄑ)|(ᄒ)|(가)|(나)|(다)|(라)|(마)|(바)",
    "|(사)|(아)|(자)|(차)|(카)|(타)|(파)|(하)|(주)"]),
  (0x3220, ["(一)|(二)|(三)|(四)|(五)|(六)|(七)|(八)|(九)|(十)|(月)|(火)|(水)|(木)|(金)|(土)|(日)|(株)|(有)|(社)|(名)|(",
    "特)|(財)|(祝)|(労)|(代)|(呼)|(学)|(監)|(企)|(資)|(協)|(祭)|(休)|(自)|(至)"]),
  (0x3251, ["21|22|23|24|25|26|27|28|29|30|31|32|33|34|35|ᄀ|ᄂ|ᄃ|ᄅ|ᄆ|ᄇ|ᄉ|ᄋ|ᄌ"]),
  (0x326E, ["가|나|다|라|마|바|사|아|자|차|카|타|파|하"]),
  (0x3280, ["一|二|三|四|五|六|七|八|九|十|月|火|水|木|金|土|日|株|有|社|名|特|財|祝|労|秘|男|女|適|優|印|注|項|休|写|正|上|中|下|左|右|医|宗",
    "|学|監|企|資|協|夜|36|37|38|39|40|41|42|43|44|45|46|47|48|49|50|1月|2月|3月|4月|5月|6月|7月|8月|9月|10月|11月|",
    "12月"]),
  (0x32D0, ["ア|イ|ウ|エ|オ|カ|キ|ク|ケ|コ|サ|シ|ス|セ|ソ|タ|チ|ツ|テ|ト"]),
  (0x32EA, ["ヒ|フ|ヘ|ホ"]),
  (0x32F3, ["ヤ|ユ"]),
  (0x3300, ["アハ\u309aート|アルファ|アンヘ\u309aア|アール|イニンク\u3099|インチ|ウォン|エスクート\u3099|エーカー|オンス|オーム|カイリ|カラット|カ",
    "ロリー|カ\u3099ロン|カ\u3099ンマ|キ\u3099カ\u3099|キ\u3099ニー|キュリー|キ\u3099ルタ\u3099ー|キロ|キロク\u3099ラム|キロメートル|",
    "キロワット|ク\u3099ラム|ク\u3099ラムトン|クルセ\u3099イロ|クローネ|ケース|コルナ|コーホ\u309a|サイクル|サンチーム|シリンク\u3099|センチ|セント|",
    "タ\u3099ース|テ\u3099シ|ト\u3099ル|トン|ナノ|ノット|ハイツ|ハ\u309aーセント|ハ\u309aーツ|ハ\u3099ーレル|ヒ\u309aアストル|ヒ",
    "\u309aクル|ヒ\u309aコ|ヒ\u3099ル|ファラット\u3099|フィート|フ\u3099ッシェル|フラン|ヘクタール|ヘ\u309aソ|ヘ\u309aニヒ|ヘルツ|ヘ",
    "\u309aンス|ヘ\u309aーシ\u3099|ヘ\u3099ータ|ホ\u309aイント|ホ\u3099ルト|ホン|ホ\u309aント\u3099|ホール|ホーン|マイクロ|マイル|マ",
    "ッハ|マルク|マンション|ミクロン|ミリ|ミリハ\u3099ール|メカ\u3099|メカ\u3099トン|メートル|ヤート\u3099|ヤール|ユアン|リットル|リラ|ルヒ\u309aー",
    "|ルーフ\u3099ル|レム|レントケ\u3099ン|ワット|0点|1点|2点|3点|4点|5点|6点|7点|8点|9点|10点|11点|12点|13点|14点|15点|16点|17点|",
    "18点|19点|20点|21点|22点|23点|24点|hpa|da|au|bar|ov|pc"]),
  (0x337B, ["平成|昭和|大正|明治|株式会社|pa|na|μa|ma|ka|kb|mb|gb|cal|kcal|pf|nf|μf|μg|mg|kg|hz|khz|mhz|ghz|th",
    "z|μl|ml|dl|kl|fm|nm|μm|mm|cm|km|mm2|cm2|m2|km2|mm3|cm3|m3|km3|m∕s|m∕s2|pa|kpa|mpa|gpa|rad|rad",
    "∕s|rad∕s2|ps|ns|μs|ms|pv|nv|μv|mv|kv|mv|pw|nw|μw|mw|kw|mw|kω|mω|a.m.|bq|cc|cd|c∕kg|co.|db|gy|",
    "ha|hp|in|kk|km|kt|lm|ln|log|lx|mb|mil|mol|ph|p.m.|ppm|pr|sr|sv|wb"]),
  (0x33E0, ["1日|2日|3日|4日|5日|6日|7日|8日|9日|10日|11日|12日|13日|14日|15日|16日|17日|18日|19日|20日|21日|22日|23日|24",
    "日|25日|26日|27日|28日|29日|30日|31日"]),
  (0xA779, ["ꝺ"]),
  (0xA77B, ["ꝼ"]),
  (0xA77D, ["ᵹ"]),
  (0xA78B, ["ꞌ"]),
  (0xA78D, ["ɥ"]),
  (0xA790, ["ꞑ"]),
  (0xA792, ["ꞓ"]),
  (0xA7AA, ["ɦ|ɜ|ɡ|ɬ|ɪ"]),
  (0xA7B0, ["ʞ|ʇ|ʝ|ꭓ"]),
  (0xA7C4, ["ꞔ|ʂ|ᶎ|ꟈ"]),
  (0xA7C9, ["ꟊ"]),
  (0xA7D0, ["ꟑ"]),
  (0xA7D6, ["ꟗ"]),
  (0xA7D8, ["ꟙ"]),
  (0xA7F5, ["ꟶ"]),
  (0xF900, ["豈|更|車|賈|滑|串|句|龜|龜|契|金|喇|奈|懶|癩|羅|蘿|螺|裸|邏|樂|洛|烙|珞|落|酪|駱|亂|卵|欄|爛|蘭|鸞|嵐|濫|藍|襤|拉|臘|蠟|廊|朗|浪",
    "|狼|郎|來|冷|勞|擄|櫓|爐|盧|老|蘆|虜|路|露|魯|鷺|碌|祿|綠|菉|錄|鹿|論|壟|弄|籠|聾|牢|磊|賂|雷|壘|屢|樓|淚|漏|累|縷|陋|勒|肋|凜|凌|稜|綾|菱|",
    "陵|讀|拏|樂|諾|丹|寧|怒|率|異|北|磻|便|復|不|泌|數|索|參|塞|省|葉|說|殺|辰|沈|拾|若|掠|略|亮|兩|凉|梁|糧|良|諒|量|勵|呂|女|廬|旅|濾|礪|閭|驪",
    "|麗|黎|力|曆|歷|轢|年|憐|戀|撚|漣|煉|璉|秊|練|聯|輦|蓮|連|鍊|列|劣|咽|烈|裂|說|廉|念|捻|殮|簾|獵|令|囹|寧|嶺|怜|玲|瑩|羚|聆|鈴|零|靈|領|例|",
    "禮|醴|隸|惡|了|僚|寮|尿|料|樂|燎|療|蓼|遼|龍|暈|阮|劉|杻|柳|流|溜|琉|留|硫|紐|類|六|戮|陸|倫|崙|淪|輪|律|慄|栗|率|隆|利|吏|履|易|李|梨|泥|理",
    "|痢|罹|裏|裡|里|離|匿|溺|吝|燐|璘|藺|隣|鱗|麟|林|淋|臨|立|笠|粒|狀|炙|識|什|茶|刺|切|度|拓|糖|宅|洞|暴|輻|行|降|見|廓|兀|嗀"]),
  (0xFA10, ["塚"]),
  (0xFA12, ["晴"]),
  (0xFA15, ["凞|猪|益|礼|神|祥|福|靖|精|羽"]),
  (0xFA20, ["蘒"]),
  (0xFA22, ["諸"]),
  (0xFA25, ["逸|都"]),
  (0xFA2A, ["飯|飼|館|鶴"]),
  (0xFA30, ["侮|僧|免|勉|勤|卑|喝|嘆|器|塀|墨|層|屮|悔|慨|憎|懲|敏|既|暑|梅|海|渚|漢|煮|爫|琢|碑|社|祉|祈|祐|祖|祝|禍|禎|穀|突|節|練|縉|繁|署",
    "|者|臭|艹|艹|著|褐|視|謁|謹|賓|贈|辶|逸|難|響|頻"]),
  (0xFB00, ["ff|fi|fl|ffi|ffl|st|st"]),
  (0xFB13, ["մն|մե|մի|վն|մխ"]),
  (0xFB1D, ["\u05d9\u05b4"]),
  (0xFB1F, ["\u05f2\u05b7|\u05e2|\u05d0|\u05d3|\u05d4|\u05db|\u05dc|\u05dd|\u05e8|\u05ea|+|\u05e9",
    "\u05c1|\u05e9\u05c2|\u05e9\u05bc\u05c1|\u05e9\u05bc\u05c2|\u05d0\u05b7|\u05d0\u05b8|\u05d0",
    "\u05bc|\u05d1\u05bc|\u05d2\u05bc|\u05d3\u05bc|\u05d4\u05bc|\u05d5\u05bc|\u05d6\u05bc"]),
  (0xFB38, ["\u05d8\u05bc|\u05d9\u05bc|\u05da\u05bc|\u05db\u05bc|\u05dc\u05bc"]),
  (0xFB3E, ["\u05de\u05bc"]),
  (0xFB40, ["\u05e0\u05bc|\u05e1\u05bc"]),
  (0xFB43, ["\u05e3\u05bc|\u05e4\u05bc"]),
  (0xFB46, ["\u05e6\u05bc|\u05e7\u05bc|\u05e8\u05bc|\u05e9\u05bc|\u05ea\u05bc|\u05d5\u05b9|\u05d1",
    "\u05bf|\u05db\u05bf|\u05e4\u05bf|\u05d0\u05dc|\u0671|\u0671|\u067b|\u067b|\u067b|\u067b|",
    "\u067e|\u067e|\u067e|\u067e|\u0680|\u0680|\u0680|\u0680|\u067a|\u067a|\u067a|\u067a|\u067f|",
    "\u067f|\u067f|\u067f|\u0679|\u0679|\u0679|\u0679|\u06a4|\u06a4|\u06a4|\u06a4|\u06a6|\u06a6|",
    "\u06a6|\u06a6|\u0684|\u0684|\u0684|\u0684|\u0683|\u0683|\u0683|\u0683|\u0686|\u0686|\u0686|",
    "\u0686|\u0687|\u0687|\u0687|\u0687|\u068d|\u068d|\u068c|\u068c|\u068e|\u068e|\u0688|\u0688|",
    "\u0698|\u0698|\u0691|\u0691|\u06a9|\u06a9|\u06a9|\u06a9|\u06af|\u06af|\u06af|\u06af|\u06b3|",
    "\u06b3|\u06b3|\u06b3|\u06b1|\u06b1|\u06b1|\u06b1|\u06ba|\u06ba|\u06bb|\u06bb|\u06bb|\u06bb|",
    "\u06d5\u0654|\u06d5\u0654|\u06c1|\u06c1|\u06c1|\u06c1|\u06be|\u06be|\u06be|\u06be|\u06d2|",
    "\u06d2|\u06d2\u0654|\u06d2\u0654"]),
  (0xFBD3, ["\u06ad|\u06ad|\u06ad|\u06ad|\u06c7|\u06c7|\u06c6|\u06c6|\u06c8|\u06c8|\u06c7\u0674|",
    "\u06cb|\u06cb|\u06c5|\u06c5|\u06c9|\u06c9|\u06d0|\u06d0|\u06d0|\u06d0|\u0649|\u0649|\u064a",
    "\u0654\u0627|\u064a\u0654\u0627|\u064a\u0654\u06d5|\u064a\u0654\u06d5|\u064a\u0654\u0648|",
    "\u064a\u0654\u0648|\u064a\u0654\u06c7|\u064a\u0654\u06c7|\u064a\u0654\u06c6|\u064a\u0654",
    "\u06c6|\u064a\u0654\u06c8|\u064a\u0654\u06c8|\u064a\u0654\u06d0|\u064a\u0654\u06d0|\u064a",
    "\u0654\u06d0|\u064a\u0654\u0649|\u064a\u0654\u0649|\u064a\u0654\u0649|\u06cc|\u06cc|\u06cc|",
    "\u06cc|\u064a\u0654\u062c|\u064a\u0654\u062d|\u064a\u0654\u0645|\u064a\u0654\u0649|\u064a",
    "\u0654\u064a|\u0628\u062c|\u0628\u062d|\u0628\u062e|\u0628\u0645|\u0628\u0649|\u0628\u064a|",
    "\u062a\u062c|\u062a\u062d|\u062a\u062e|\u062a\u0645|\u062a\u0649|\u062a\u064a|\u062b\u062c|",
    "\u062b\u0645|\u062b\u0649|\u062b\u064a|\u062c\u062d|\u062c\u0645|\u062d\u062c|\u062d\u0645|",
    "\u062e\u062c|\u062e\u062d|\u062e\u0645|\u0633\u062c|\u0633\u062d|\u0633\u062e|\u0633\u0645|",
    "\u0635\u062d|\u0635\u0645|\u0636\u062c|\u0636\u062d|\u0636\u062e|\u0636\u0645|\u0637\u062d|",
    "\u0637\u0645|\u0638\u0645|\u0639\u062c|\u0639\u0645|\u063a\u062c|\u063a\u0645|\u0641\u062c|",
    "\u0641\u062d|\u0641\u062e|\u0641\u0645|\u0641\u0649|\u0641\u064a|\u0642\u062d|\u0642\u0645|",
    "\u0642\u0649|\u0642\u064a|\u0643\u0627|\u0643\u062c|\u0643\u062d|\u0643\u062e|\u0643\u0644|",
    "\u0643\u0645|\u0643\u0649|\u0643\u064a|\u0644\u062c|\u0644\u062d|\u0644\u062e|\u0644\u0645|",
    "\u0644\u0649|\u0644\u064a|\u0645\u062c|\u0645\u062d|\u0645\u062e|\u0645\u0645|\u0645\u0649|",
    "\u0645\u064a|\u0646\u062c|\u0646\u062d|\u0646\u062e|\u0646\u0645|\u0646\u0649|\u0646\u064a|",
    "\u0647\u062c|\u0647\u0645|\u0647\u0649|\u0647\u064a|\u064a\u062c|\u064a\u062d|\u064a\u062e|",
    "\u064a\u0645|\u064a\u0649|\u064a\u064a|\u0630\u0670|\u0631\u0670|\u0649\u0670| \u064c\u0651| ",
    "\u064d\u0651| \u064e\u0651| \u064f\u0651| \u0650\u0651| \u0651\u0670|\u064a\u0654\u0631|",
    "\u064a\u0654\u0632|\u064a\u0654\u0645|\u064a\u0654\u0646|\u064a\u0654\u0649|\u064a\u0654",
    "\u064a|\u0628\u0631|\u0628\u0632|\u0628\u0645|\u0628\u0646|\u0628\u0649|\u0628\u064a|\u062a",
    "\u0631|\u062a\u0632|\u062a\u0645|\u062a\u0646|\u062a\u0649|\u062a\u064a|\u062b\u0631|\u062b",
    "\u0632|\u062b\u0645|\u062b\u0646|\u062b\u0649|\u062b\u064a|\u0641\u0649|\u0641\u064a|\u0642",
    "\u0649|\u0642\u064a|\u0643\u0627|\u0643\u0644|\u0643\u0645|\u0643\u0649|\u0643\u064a|\u0644",
    "\u0645|\u0644\u0649|\u0644\u064a|\u0645\u0627|\u0645\u0645|\u0646\u0631|\u0646\u0632|\u0646",
    "\u0645|\u0646\u0646|\u0646\u0649|\u0646\u064a|\u0649\u0670|\u064a\u0631|\u064a\u0632|\u064a",
    "\u0645|\u064a\u0646|\u064a\u0649|\u064a\u064a|\u064a\u0654\u062c|\u064a\u0654\u062d|\u064a",
    "\u0654\u062e|\u064a\u0654\u0645|\u064a\u0654\u0647|\u0628\u062c|\u0628\u062d|\u0628\u062e|",
    "\u0628\u0645|\u0628\u0647|\u062a\u062c|\u062a\u062d|\u062a\u062e|\u062a\u0645|\u062a\u0647|",
    "\u062b\u0645|\u062c\u062d|\u062c\u0645|\u062d\u062c|\u062d\u0645|\u062e\u062c|\u062e\u0645|",
    "\u0633\u062c|\u0633\u062d|\u0633\u062e|\u0633\u0645|\u0635\u062d|\u0635\u062e|\u0635\u0645|",
    "\u0636\u062c|\u0636\u062d|\u0636\u062e|\u0636\u0645|\u0637\u062d|\u0638\u0645|\u0639\u062c|",
    "\u0639\u0645|\u063a\u062c|\u063a\u0645|\u0641\u062c|\u0641\u062d|\u0641\u062e|\u0641\u0645|",
    "\u0642\u062d|\u0642\u0645|\u0643\u062c|\u0643\u062d|\u0643\u062e|\u0643\u0644|\u0643\u0645|",
    "\u0644\u062c|\u0644\u062d|\u0644\u062e|\u0644\u0645|\u0644\u0647|\u0645\u062c|\u0645\u062d|",
    "\u0645\u062e|\u0645\u0645|\u0646\u062c|\u0646\u062d|\u0646\u062e|\u0646\u0645|\u0646\u0647|",
    "\u0647\u062c|\u0647\u0645|\u0647\u0670|\u064a\u062c|\u064a\u062d|\u064a\u062e|\u064a\u0645|",
    "\u064a\u0647|\u064a\u0654\u0645|\u064a\u0654\u0647|\u0628\u0645|\u0628\u0647|\u062a\u0645|",
    "\u062a\u0647|\u062b\u0645|\u062b\u0647|\u0633\u0645|\u0633\u0647|\u0634\u0645|\u0634\u0647|",
    "\u0643\u0644|\u0643\u0645|\u0644\u0645|\u0646\u0645|\u0646\u0647|\u064a\u0645|\u064a\u0647|",
    "\u0640\u064e\u0651|\u0640\u064f\u0651|\u0640\u0650\u0651|\u0637\u0649|\u0637\u064a|\u0639",
    "\u0649|\u0639\u064a|\u063a\u0649|\u063a\u064a|\u0633\u0649|\u0633\u064a|\u0634\u0649|\u0634",
    "\u064a|\u062d\u0649|\u062d\u064a|\u062c\u0649|\u062c\u064a|\u062e\u0649|\u062e\u064a|\u0635",
    "\u0649|\u0635\u064a|\u0636\u0649|\u0636\u064a|\u0634\u062c|\u0634\u062d|\u0634\u062e|\u0634",
    "\u0645|\u0634\u0631|\u0633\u0631|\u0635\u0631|\u0636\u0631|\u0637\u0649|\u0637\u064a|\u0639",
    "\u0649|\u0639\u064a|\u063a\u0649|\u063a\u064a|\u0633\u0649|\u0633\u064a|\u0634\u0649|\u0634",
    "\u064a|\u062d\u0649|\u062d\u064a|\u062c\u0649|\u062c\u064a|\u062e\u0649|\u062e\u064a|\u0635",
    "\u0649|\u0635\u064a|\u0636\u0649|\u0636\u064a|\u0634\u062c|\u0634\u062d|\u0634\u062e|\u0634",
    "\u0645|\u0634\u0631|\u0633\u0631|\u0635\u0631|\u0636\u0631|\u0634\u062c|\u0634\u062d|\u0634",
    "\u062e|\u0634\u0645|\u0633\u0647|\u0634\u0647|\u0637\u0645|\u0633\u062c|\u0633\u062d|\u0633",
    "\u062e|\u0634\u062c|\u0634\u062d|\u0634\u062e|\u0637\u0645|\u0638\u0645|\u0627\u064b|\u0627",
    "\u064b"]),
  (0xFD50, ["\u062a\u062c\u0645|\u062a\u062d\u062c|\u062a\u062d\u062c|\u062a\u062d\u0645|\u062a",
    "\u062e\u0645|\u062a\u0645\u062c|\u062a\u0645\u062d|\u062a\u0645\u062e|\u062c\u0645\u062d|",
    "\u062c\u0645\u062d|\u062d\u0645\u064a|\u062d\u0645\u0649|\u0633\u062d\u062c|\u0633\u062c",
    "\u062d|\u0633\u062c\u0649|\u0633\u0645\u062d|\u0633\u0645\u062d|\u0633\u0645\u062c|\u0633",
    "\u0645\u0645|\u0633\u0645\u0645|\u0635\u062d\u062d|\u0635\u062d\u062d|\u0635\u0645\u0645|",
    "\u0634\u062d\u0645|\u0634\u062d\u0645|\u0634\u062c\u064a|\u0634\u0645\u062e|\u0634\u0645",
    "\u062e|\u0634\u0645\u0645|\u0634\u0645\u0645|\u0636\u062d\u0649|\u0636\u062e\u0645|\u0636",
    "\u062e\u0645|\u0637\u0645\u062d|\u0637\u0645\u062d|\u0637\u0645\u0645|\u0637\u0645\u064a|",
    "\u0639\u062c\u0645|\u0639\u0645\u0645|\u0639\u0645\u0645|\u0639\u0645\u0649|\u063a\u0645",
    "\u0645|\u063a\u0645\u064a|\u063a\u0645\u0649|\u0641\u062e\u0645|\u0641\u062e\u0645|\u0642",
    "\u0645\u062d|\u0642\u0645\u0645|\u0644\u062d\u0645|\u0644\u062d\u064a|\u0644\u062d\u0649|",
    "\u0644\u062c\u062c|\u0644\u062c\u062c|\u0644\u062e\u0645|\u0644\u062e\u0645|\u0644\u0645",
    "\u062d|\u0644\u0645\u062d|\u0645\u062d\u062c|\u0645\u062d\u0645|\u0645\u062d\u064a|\u0645",
    "\u062c\u062d|\u0645\u062c\u0645|\u0645\u062e\u062c|\u0645\u062e\u0645"]),
  (0xFD92, ["\u0645\u062c\u062e|\u0647\u0645\u062c|\u0647\u0645\u0645|\u0646\u062d\u0645|\u0646",
    "\u062d\u0649|\u0646\u062c\u0645|\u0646\u062c\u0645|\u0646\u062c\u0649|\u0646\u0645\u064a|",
    "\u0646\u0645\u0649|\u064a\u0645\u0645|\u064a\u0645\u0645|\u0628\u062e\u064a|\u062a\u062c",
    "\u064a|\u062a\u062c\u0649|\u062a\u062e\u064a|\u062a\u062e\u0649|\u062a\u0645\u064a|\u062a",
    "\u0645\u0649|\u062c\u0645\u064a|\u062c\u062d\u0649|\u062c\u0645\u0649|\u0633\u062e\u0649|",
    "\u0635\u062d\u064a|\u0634\u062d\u064a|\u0636\u062d\u064a|\u0644\u062c\u064a|\u0644\u0645",
    "\u064a|\u064a\u062d\u064a|\u064a\u062c\u064a|\u064a\u0645\u064a|\u0645\u0645\u064a|\u0642",
    "\u0645\u064a|\u0646\u062d\u064a|\u0642\u0645\u062d|\u0644\u062d\u0645|\u0639\u0645\u064a|",
    "\u0643\u0645\u064a|\u0646\u062c\u062d|\u0645\u062e\u064a|\u0644\u062c\u0645|\u0643\u0645",
    "\u0645|\u0644\u062c\u0645|\u0646\u062c\u062d|\u062c\u062d\u064a|\u062d\u062c\u064a|\u0645",
    "\u062c\u064a|\u0641\u0645\u064a|\u0628\u062d\u064a|\u0643\u0645\u0645|\u0639\u062c\u0645|",
    "\u0635\u0645\u0645|\u0633\u062e\u064a|\u0646\u062c\u064a"]),
  (0xFDF0, ["\u0635\u0644\u06d2|\u0642\u0644\u06d2|\u0627\u0644\u0644\u0647|\u0627\u0643\u0628",
    "\u0631|\u0645\u062d\u0645\u062f|\u0635\u0644\u0639\u0645|\u0631\u0633\u0648\u0644|\u0639",
    "\u0644\u064a\u0647|\u0648\u0633\u0644\u0645|\u0635\u0644\u0649|\u0635\u0644\u0649 \u0627",
    "\u0644\u0644\u0647 \u0639\u0644\u064a\u0647 \u0648\u0633\u0644\u0645|\u062c\u0644 \u062c",
    "\u0644\u0627\u0644\u0647|\u0631\u06cc\u0627\u0644"]),
  (0xFE30, ["..|\u2014|\u2013|_|_|(|)|\x7b|\x7d|〔|〕|【|】|《|》|〈|〉"]),
  (0xFE49, [" \u0305| \u0305| \u0305| \u0305|_|_|_|,|、|."]),
  (0xFE54, [";|:|?|!|\u2014|(|)|\x7b|\x7d|〔|〕|#|&|*|+|-|<|>|="]),
  (0xFE68, ["\\|$|%|@"]),
  (0xFE70, [" \u064b|\u0640\u064b| \u064c"]),
  (0xFE74, [" \u064d"]),
  (0xFE76, [" \u064e|\u0640\u064e| \u064f|\u0640\u064f| \u0650|\u0640\u0650| \u0651|\u0640\u0651| ",
    "\u0652|\u0640\u0652|\u0621|\u0627\u0653|\u0627\u0653|\u0627\u0654|\u0627\u0654|\u0648\u0654|",
    "\u0648\u0654|\u0627\u0655|\u0627\u0655|\u064a\u0654|\u064a\u0654|\u064a\u0654|\u064a\u0654|",
    "\u0627|\u0627|\u0628|\u0628|\u0628|\u0628|\u0629|\u0629|\u062a|\u062a|\u062a|\u062a|\u062b|",
    "\u062b|\u062b|\u062b|\u062c|\u062c|\u062c|\u062c|\u062d|\u062d|\u062d|\u062d|\u062e|\u062e|",
    "\u062e|\u062e|\u062f|\u062f|\u0630|\u0630|\u0631|\u0631|\u0632|\u0632|\u0633|\u0633|\u0633|",
    "\u0633|\u0634|\u0634|\u0634|\u0634|\u0635|\u0635|\u0635|\u0635|\u0636|\u0636|\u0636|\u0636|",
    "\u0637|\u0637|\u0637|\u0637|\u0638|\u0638|\u0638|\u0638|\u0639|\u0639|\u0639|\u0639|\u063a|",
    "\u063a|\u063a|\u063a|\u0641|\u0641|\u0641|\u0641|\u0642|\u0642|\u0642|\u0642|\u0643|\u0643|",
    "\u0643|\u0643|\u0644|\u0644|\u0644|\u0644|\u0645|\u0645|\u0645|\u0645|\u0646|\u0646|\u0646|",
    "\u0646|\u0647|\u0647|\u0647|\u0647|\u0648|\u0648|\u0649|\u0649|\u064a|\u064a|\u064a|\u064a|",
    "\u0644\u0627\u0653|\u0644\u0627\u0653|\u0644\u0627\u0654|\u0644\u0627\u0654|\u0644\u0627",
    "\u0655|\u0644\u0627\u0655|\u0644\u0627|\u0644\u0627"]),
  (0xFF5F, ["⦅|⦆|。|「|」|、|・|ヲ|ァ|ィ|ゥ|ェ|ォ|ャ|ュ|ョ|ッ|ー|ア|イ|ウ|エ|オ|カ|キ|ク|ケ|コ|サ|シ|ス|セ|ソ|タ|チ|ツ|テ|ト"]),
  (0xFF8B, ["ヒ|フ|ヘ|ホ"]),
  (0xFF94, ["ヤ|ユ"]),
  (0xFF9C, ["ワ|ン|\u3099|\u309a|ᅠ|ᄀ|ᄁ|ᆪ|ᄂ|ᆬ|ᆭ|ᄃ|ᄄ|ᄅ"]),
  (0xFFB0, ["ᄚ|ᄆ|ᄇ|ᄈ|ᄡ"]),
  (0xFFDA, ["ᅳ|ᅴ|ᅵ"]),
  (0xFFE0, ["¢|£|¬| \u0304|¦|¥|₩"]),
  (0xFFE8, ["│"]),
  (0xFFED, ["■|○"]),
  (0x10594, ["𐖻|𐖼"]),
  (0x1D15E, ["𝅗𝅥|𝅘𝅥|𝅘𝅥𝅮|𝅘𝅥𝅯|𝅘𝅥𝅰|𝅘𝅥𝅱|𝅘𝅥𝅲"]),
  (0x1D1BB, ["𝆹𝅥|𝆺𝅥|𝆹𝅥𝅮|𝆺𝅥𝅮|𝆹𝅥𝅯|𝆺𝅥𝅯"]),
  (0x1D49C, ["a"]),
  (0x1D49E, ["c|d"]),
  (0x1D4A2, ["g"]),
  (0x1D4A5, ["j|k"]),
  (0x1D4BB, ["f"]),
  (0x1D4BD, ["h|i|j|k"]),
  (0x1D4C2, ["m|n"]),
  (0x1D504, ["a|b"]),
  (0x1D538, ["a|b"]),
  (0x1D546, ["o"]),
  (0x1D6B9, ["θ"]),
  (0x1D6C1, ["∇"]),
  (0x1D6D3, ["σ"]),
  (0x1D6DB, ["∂|ε|θ|κ|φ|ρ|π"]),
  (0x1D6F3, ["θ"]),
  (0x1D6FB, ["∇"]),
  (0x1D70D, ["σ"]),
  (0x1D715, ["∂|ε|θ|κ|φ|ρ|π"]),
  (0x1D72D, ["θ"]),
  (0x1D735, ["∇"]),
  (0x1D747, ["σ"]),
  (0x1D74F, ["∂|ε|θ|κ|φ|ρ|π"]),
  (0x1D767, ["θ"]),
  (0x1D76F, ["∇"]),
  (0x1D781, ["σ"]),
  (0x1D789, ["∂|ε|θ|κ|φ|ρ|π"]),
  (0x1D7A1, ["θ"]),
  (0x1D7A9, ["∇"]),
  (0x1D7BB, ["σ"]),
  (0x1D7C3, ["∂|ε|θ|κ|φ|ρ|π"]),
  (0x2F800, ["丽|丸|乁|𠄢|你|侮|侻|倂|偺|備|僧|像|㒞|𠘺|免|兔|兤|具|𠔜|㒹|內|再|𠕋|冗|冤|仌|冬|况|𩇟|凵|刃|㓟|刻|剆|割|剷|㔕|勇|勉|勤|勺|包|",
    "匆|北|卉|卑|博|即|卽|卿|卿|卿|𠨬|灰|及|叟|𠭣|叫|叱|吆|咞|吸|呈|周|咢|哶|唐|啓|啣|善|善|喙|喫|喳|嗂|圖|嘆|圗|噑|噴|切|壮|城|埴|堍|型|堲|報|墬",
    "|𡓤|売|壷|夆|多|夢|奢|𡚨|𡛪|姬|娛|娧|姘|婦|㛮|𡍪|嬈|嬾|嬾|𡧈|寃|寘|寧|寳|𡬘|寿|将|弳|尢|㞁|屠|屮|峀|岍|𡷤|嵃|𡷦|嵮|嵫|嵼|巡|巢|㠯|巽|帨|帽|",
    "幩|㡢|𢆃|㡼|庰|庳|庶|廊|𪎒|廾|𢌱|𢌱|舁|弢|弢|㣇|𣊸|𦇚|形|彫|㣣|徚|忍|志|忹|悁|㤺|㤜|悔|𢛔|惇|慈|慌|慎|慌|慺|憎|憲|憤|憯|懞|懲|懶|成|戛|扝|抱",
    "|拔|捐|𢬌|挽|拼|捨|掃|揤|𢯱|搢|揅|掩|㨮|摩|摾|撝|摷|㩬|敏|敬|𣀊|旣|書|晉|㬙|暑|㬈|㫤|冒|冕|最|暜|肭|䏙|朗|望|朡|杞|杓|𣏃|㭉|柺|枅|桒|梅|𣑭|",
    "梎|栟|椔|㮝|楂|榣|槪|檨|𣚣|櫛|㰘|次|𣢧|歔|㱎|歲|殟|殺|殻|𣪍|𡴋|𣫺|汎|𣲼|沿|泍|汧|洖|派|海|流|浩|浸|涅|𣴞|洴|港|湮|㴳|滋|滇|𣻑|淹|潮|𣽞|𣾎|濆",
    "|瀹|瀞|瀛|㶖|灊|災|灷|炭|𠔥|煅|𤉣|熜|䎫|爨|爵|牐|𤘈|犀|犕|𤜵|𤠔|獺|王|㺬|玥|㺸|㺸|瑇|瑜|瑱|璅|瓊|㼛|甤|𤰶|甾|𤲒|異|𢆟|瘐|𤾡|𤾸|𥁄|㿼|䀈|直|",
    "𥃳|𥃲|𥄙|𥄳|眞|真|真|睊|䀹|瞋|䁆|䂖|𥐝|硎|碌|磌|䃣|𥘦|祖|𥚚|𥛅|福|秫|䄯|穀|穊|穏|𥥼|𥪧|𥪧|窮|䈂|𥮫|篆|築|䈧|𥲀|糒|䊠|糨|糣|紀|𥾆|絣|䌁|緇|縂",
    "|繅|䌴|𦈨|𦉇|䍙|𦋙|罺|𦌾|羕|翺|者|𦓚|𦔣|聠|𦖨|聰|𣍟|䏕|育|脃|䐋|脾|媵|𦞧|𦞵|𣎓|𣎜|舁|舄|辞|䑫|芑|芋|芝|劳|花|芳|芽|苦|𦬼|若|茝|荣|莭|茣|莽|",
    "菧|著|荓|菊|菌|菜|𦰶|𦵫|𦳕|䔫|蓱|蓳|蔖|𧏊|蕤|𦼬|䕝|䕡|𦾱|𧃒|䕫|虐|虜|虧|虩|蚩|蚈|蜎|蛢|蝹|蜨|蝫|螆|䵗|蟡|蠁|䗹|衠|衣|𧙧|裗|裞|䘵|裺|㒻|𧢮|𧥦",
    "|䚾|䛇|誠|諭|變|豕|𧲨|貫|賁|贛|起|𧼯|𠠄|跋|趼|跰|𠣞|軔|輸|𨗒|𨗭|邔|郱|鄑|𨜮|鄛|鈸|鋗|鋘|鉼|鏹|鐕|𨯺|開|䦕|閷|𨵷|䧦|雃|嶲|霣|𩅅|𩈚|䩮|䩶|韠|",
    "𩐊|䪲|𩒖|頋|頋|頩|𩖶|飢|䬳|餩|馧|駂|駾|䯎|𩬰|鬒|鱀|鳽|䳎|䳭|鵧|𪃎|䳸|𪄅|𪈎|𪊑|麻|䵖|黹|黾|鼅|鼏|鼖|鼻|𪘀"])
]

/-- What a code counts as if it follows others as its own does. -/
def likened? (n : Nat) : Option Nat :=
  alike.findSome? fun (first, last, step, target) =>
    if first ≤ n && n ≤ last && (n - first) % step = 0 then some (target + (n - first)) else none

/-- What a code is listed to count as. -/
def counted? (n : Nat) : Option (List Nat) := do
  let (first, rows) ← (counted.filter fun b => b.1 ≤ n).getLast?
  let found ← (cut ['|'] (rows.flatMap String.toList))[n - first]?
  some (found.map Char.toNat)

/-- The letters of a syllable of Hangul. -/
def syllableLetters? (n : Nat) : Option (List Nat) :=
  if 0xAC00 ≤ n && n < 0xD7A4 then
    let place := n - 0xAC00
    let last := if place % 28 = 0 then [] else [0x11A7 + place % 28]
    some ([0x1100 + place / 588, 0x1161 + place % 588 / 28] ++ last)
  else none

/-- What a code counts as. -/
def folded (n : Nat) : List Nat :=
  match likened? n with
  | some m => [m]
  | none => (counted? n <|> syllableLetters? n).getD [n]

end MetesBounds.Text.HostName
