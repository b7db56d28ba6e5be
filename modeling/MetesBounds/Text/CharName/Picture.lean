import MetesBounds.Text.CharName.Block

/-!
# `Text/CharName/Picture` — the names of pictures, tiles, cards, shapes and tags
-/

set_option autoImplicit false

namespace MetesBounds.Text.CharName

/-- Names of pictures, tiles, cards, shapes and tags. -/
def picture : List Block := [
  (0x1F000, [":MAHJONG TILEnqWIND<prWIND<oqWIND<pbWIND<RED DRAGON<GREEN DRAGON<klDRAGON<kdOFyj<kbO",
    "Fyj<kiOFyj<kmOFyj<kqOFyj<kzOFyj<leOFyj<laOFyj<liOFyj<kdOF BAMBOOS<kbOF BAMBOOS<kiOF BAMBOOS<k",
    "mOF BAMBOOS<kqOF BAMBOOS<kzOF BAMBOOS<leOF BAMBOOS<laOF BAMBOOS<liOF BAMBOOS<kdOFwq<kbOFwq<ki",
    "OFwq<kmOFwq<kqOFwq<kzOFwq<leOFwq<laOFwq<liOFwq<PLUM<ORCHID<BAMBOO<CHRYSANTHEMUM<SPRING<SUMMER",
    "<AUTUMN<WINTER<JOKER<BACK"]),
  (0x1F030, [":DOMINO TILElvBACK<HORIZONTAL-00-00@@@@@@<HORIZONTAL-01-00@@@@@@<HORIZONTAL-02-00@@@",
    "@@@<HORIZONTAL-03-00@@@@@@<HORIZONTAL-04-00@@@@@@<HORIZONTAL-05-00@@@@@@<HORIZONTAL-06-00@@@@",
    "@@<kwBACK<VERTICAL-00-00@@@@@@<VERTICAL-01-00@@@@@@<VERTICAL-02-00@@@@@@<VERTICAL-03-00@@@@@@",
    "<VERTICAL-04-00@@@@@@<VERTICAL-05-00@@@@@@<VERTICAL-06-00@@@@@@"]),
  (0x1F0A0, [":PLAYING CARD BACK<ACE OFwl<kbOFwl<kiOFwl<kmOFwl<kqOFwl<kzOFwl<leOFwl<laOFwl<liOFwl<",
    "mrOFwl<JACK OFwl<sbOFwl<vnOFwl<KING OFwl"]),
  (0x1F0B1, [":PLAYING CARD ACE OFuw<kbOFuw<kiOFuw<kmOFuw<kqOFuw<kzOFuw<leOFuw<laOFuw<liOFuw<mrOFu",
    "w<JACK OFuw<sbOFuw<vnOFuw<KING OFuw<RED JOKER"]),
  (0x1F0C1, [":PLAYING CARD ACE OFwg<kbOFwg<kiOFwg<kmOFwg<kqOFwg<kzOFwg<leOFwg<laOFwg<liOFwg<mrOFw",
    "g<JACK OFwg<sbOFwg<vnOFwg<KING OFwg<kjJOKER"]),
  (0x1F0D1, [":PLAYING CARD ACE OF CLUBS<kbOF CLUBS<kiOF CLUBS<kmOF CLUBS<kqOF CLUBS<kzOF CLUBS<le",
    "OF CLUBS<laOF CLUBS<liOF CLUBS<mrOF CLUBS<JACK OF CLUBS<sbOF CLUBS<vnOF CLUBS<KING OF CLUBS<k",
    "lJOKER<FOOL<TRUMP-1@@@@@@@@@@@@@@@@@@@@"]),
  (0x1F100, [":lumkovnd<nv;kdnv;kbnv;kinv;kmnv;kqnv;kznv;lenv;lanv;linv:DINGBATootglumk;vlootglumk",
    ":oomkavp;ueh;DOLLARfaOVERLAID BACKSLASH:zxogebA>B>C>D>E>F>G>H>I>J>K>L>M>N>O>P>Q>R>S>T>U>V>W>X",
    ">Y>Z:uqswBRACKETEDogebS:oowuogebC?R;CD;WZ:COPYLEFTkp:qoogebA>B>C>D>E>F>G>H>I>J>K>L>M>N>O>P>Q>",
    "R>S>T>U>V>W>X>Y>Z;HV;MV;SD;SS;PPV;WC:vlooogebA?B?C?D?E?F?G?H?I?J?K?L?M?N?O?P?Q?R?S?T?U?V?W?X?",
    "Y?Z:smMCf;MDf;MRf:ooCC;CaOVERLAID BACKSLASH;HUMAN FIGURE:vlqoogebA?B?C?D?E?F?G?H?I?J?K?L?M?N?",
    "O?P?Q?R?S?T?U?V?W?X?Y?Z:wsvlqoogebP:vlqoIC<PA<SA<AB<WC:llDJ:qoCL;COOL;FREE;ID;NEW;NG;OK;SOS;U",
    "Paskkg;VS;kiD;SECOND SCREEN;kbK;kmK;laK;kqPOINTkd;lePOINTkd;TWENTY-TWO POINTkb;uyP;kdlgpzP;og",
    "cbD;HC;HDR;HI-RES;LOSSLESS;SHV;UHD;VOD:MASK WORKkp"]),
  (0x1F1E6, [":REGIONALyzkpbA>B>C>D>E>F>G>H>I>J>K>L>M>N>O>P>Q>R>S>T>U>V>W>X>Y>Z:llHIRAGANA HOKA:qo",
    "wjKOKO<SA"]),
  (0x1F210, [":qoCJK UNIFIED IDEOGRAPH-624B=IDEOGRAPH-5B57=IDEOGRAPH-53CC;wjDE;CJK UNIFIED IDEOGRA",
    "PH-4E8C=IDEOGRAPH-591A=IDEOGRAPH-89E3=IDEOGRAPH-5929=IDEOGRAPH-4EA4=IDEOGRAPH-6620=IDEOGRAPH-",
    "7121=IDEOGRAPH-6599=IDEOGRAPH-524D=IDEOGRAPH-5F8C=IDEOGRAPH-518D=IDEOGRAPH-65B0=IDEOGRAPH-521",
    "D=IDEOGRAPH-7D42=IDEOGRAPH-751F=IDEOGRAPH-8CA9=IDEOGRAPH-58F0=IDEOGRAPH-5439=IDEOGRAPH-6F14=I",
    "DEOGRAPH-6295=IDEOGRAPH-6355=IDEOGRAPH-4E00=IDEOGRAPH-4E09=IDEOGRAPH-904A=IDEOGRAPH-5DE6=IDEO",
    "GRAPH-4E2D=IDEOGRAPH-53F3=IDEOGRAPH-6307=IDEOGRAPH-8D70=IDEOGRAPH-6253=IDEOGRAPH-7981=IDEOGRA",
    "PH-7A7A=IDEOGRAPH-5408=IDEOGRAPH-6E80=IDEOGRAPH-6709=IDEOGRAPH-6708=IDEOGRAPH-7533=IDEOGRAPH-",
    "5272=IDEOGRAPH-55B6=IDEOGRAPH-914D"]),
  (0x1F240, [":uqswBRACKETED CJK UNIFIED IDEOGRAPH-672C?IDEOGRAPH-4E09?IDEOGRAPH-4E8C?IDEOGRAPH-5B",
    "89?IDEOGRAPH-70B9?IDEOGRAPH-6253?IDEOGRAPH-76D7?IDEOGRAPH-52DD?IDEOGRAPH-6557"]),
  (0x1F250, [":ooIDEOGRAPH ADVANTAGE<ACCEPT"]),
  (0x1F260, [":ROUNDEDkpqgFU=LU=SHOU=XI=SHUANGXI=CAI"]),
  (0x1F300, [":CYCLONE:FOGGY:qqUMBRELLA:NIGHTaSTARS:SUNRISEloMOUNTAINS;:CITYSCAPE AT DUSK:SUNSETlo",
    "BUILDINGS:RAINBOW:BRIDGE AT NIGHT:WATER WAVE:VOLCANO:MILKY WAY:EARTH GLOBE EUROPE-AFRICA<AMER",
    "ICAS<ASIA-AUSTRALIA:GLOBEaMERIDIANS:NEWslkp:WAXING CRESCENTslkp:FIRSTqyslkp:WAXING GIBBOUSslk",
    "p:ovslkp:WANING GIBBOUSslkp:LASTqyslkp:WANING CRESCENTslkp:CRESCENTsl:NEWslalk:FIRSTqyslalk:L",
    "ASTqyslalk:ovslalk:SUNalk:GLOWINGoe:SHOOTINGoe:THERMOMETER:kjDROPLET:klSUN<acCLOUD<BEHIND CLO",
    "UD>aRAIN:CLOUDaRAIN<SNOW<LIGHTNING<TORNADO:FOG:WIND BLOWINGlk:HOT DOG:TACO:BURRITO:CHESTNUT:S",
    "EEDLING:EVERGREEN TREE:DECIDUOUS TREE:PALM TREE:CACTUS:HOT PEPPER:TULIP:CHERRY BLOSSOM:ROSE:H",
    "IBISCUS:SUNFLOWER:BLOSSOM:EAR OF MAIZE<RICE:HERB:kmLEAF CLOVER:MAPLE LEAF:FALLEN LEAF:LEAF FL",
    "UTTERING IN WIND:MUSHROOM:TOMATO:AUBERGINE:GRAPES:MELON:WATERMELON:TANGERINE:LEMON:BANANA:PIN",
    "EAPPLE:RED APPLE:GREEN APPLE:PEAR:PEACH:CHERRIES:STRAWBERRY:HAMBURGER:SLICE OF PIZZA:MEAT ON ",
    "BONE:POULTRY LEG:RICE CRACKER;BALL:COOKED RICE:CURRYgRICE:STEAMING BOWL:SPAGHETTI:BREAD:FRENC",
    "H FRIES:ROASTED SWEET POTATO:DANGO:ODEN:SUSHI:FRIED SHRIMP:FISH CAKEaSWIRL DESIGN:SOFT ICE CR",
    "EAM:SHAVED ICE:ICE CREAM:DOUGHNUT:COOKIE:CHOCOLATElb:CANDY:LOLLIPOP:CUSTARD:HONEY POT:SHORTCA",
    "KE:BENTO BOX:POT OF FOOD:COOKING:FORKgKNIFE:TEACUP WITHOUT HANDLE:SAKE BOTTLEgCUP:WINE GLASS:",
    "COCKTAIL GLASS:TROPICAL DRINK:BEER MUG:CLINKING BEER MUGS:BABY BOTTLE:FORKgKNIFEaPLATE:BOTTLE",
    "aPOPPING CORK:POPCORN:RIBBON:WRAPPED PRESENT:BIRTHDAY CAKE:JACK-O-LANTERN:CHRISTMAS TREE:FATH",
    "ER CHRISTMAS:FIREWORKS:FIREWORK SPARKLER:BALLOON:PARTY POPPER:CONFETTI BALL:TANABATA TREE:wsF",
    "LAGS:PINE DECORATION:JAPANESE DOLLS:CARP STREAMER:WIND CHIME:slVIEWING CEREMONY:SCHOOL SATCHE",
    "L:GRADUATION CAP:rtaTIP ON THEka:BOUQUET OF FLOWERS:MILITARY MEDAL:REMINDER RIBBON:wkKEYBOARD",
    "aJACKS:STUDIO MICROPHONE:LEVEL SLIDER:CONTROL KNOBS:BEAMED ASCENDINGwkNOTES;DESCENDINGwkNOTES",
    ":FILM FRAMES:ADMISSION TICKETS:CAROUSEL HORSE:FERRIS WHEEL:ROLLER COASTER:FISHING POLEgFISH:M",
    "ICROPHONE:MOVIE CAMERA:CINEMA:HEADPHONE:ARTIST PALETTE:pwHAT:CIRCUS TENT:TICKET:CLAPPER BOARD",
    ":PERFORMING ARTS:VIDEO GAME:DIRECT HIT:SLOT MACHINE:BILLIARDS:GAME DIE:BOWLING:FLOWER PLAYING",
    " CARDS:wkNOTE:wxwkNOTES:SAXOPHONE:GUITAR:wkKEYBOARD:TRUMPET:VIOLIN:wkSCORE:RUNNING SHIRTaSASH",
    ":TENNIS RACQUETgBALL:SKIgSKI BOOT:BASKETBALLgHOOP:CHEQUERED FLAG:SNOWBOARDER:RUNNER:SURFER:SP",
    "ORTS MEDAL:TROPHY:HORSE RACING:AMERICAN FOOTBALL:RUGBY FOOTBALL:SWIMMER:WEIGHT LIFTER:GOLFER:",
    "RACING MOTORCYCLE;CAR:CRICKET BATgBALL:VOLLEYBALL:FIELD HOCKEY STICKgBALL:ICE HOCKEY STICKgPU",
    "CK:TABLE TENNIS PADDLEgBALL:SNOW CAPPED MOUNTAIN:CAMPING:BEACHaUMBRELLA:BUILDING CONSTRUCTION",
    ":HOUSE BUILDINGS:CITYSCAPE:DERELICT HOUSE BUILDING:CLASSICAL BUILDING:DESERT;ISLAND:NATIONAL ",
    "PARK:STADIUM:HOUSE BUILDING;aGARDEN:OFFICE BUILDING:JAPANESE POST OFFICE:EUROPEAN POST OFFICE",
    ":HOSPITAL:BANK:AUTOMATED TELLER MACHINE:HOTEL:LOVE HOTEL:CONVENIENCE STORE:SCHOOL:DEPARTMENT ",
    "STORE:FACTORY:IZAKAYA LANTERN:JAPANESE CASTLE:EUROPEAN CASTLE:klPENNANT:kjPENNANT:WAVINGklFLA",
    "G;kjFLAG:ROSETTE:kjROSETTE:LABEL:BADMINTON RACQUETgSHUTTLECOCK:BOWgh:AMPHORA:EMOJIreFITZPATRI",
    "CK TYPE-1-2=TYPE-3@@@:RAT:MOUSE:OX:WATER BUFFALO:COW:TIGER:LEOPARD:RABBIT:CAT:DRAGON:CROCODIL",
    "E:WHALE:SNAIL:SNAKE:HORSE:RAM:GOAT:SHEEP:MONKEY:ROOSTER:CHICKEN:DOG:PIG:BOAR:ELEPHANT:OCTOPUS",
    ":SPIRALsw:BUG:ANT:HONEYBEE:LADY BEETLE:FISH:TROPICAL FISH:BLOWFISH:TURTLE:HATCHING CHICK:BABY",
    " CHICK:FRONT-FACING BABY CHICK:BIRD:PENGUIN:KOALA:POODLE:DROMEDARY CAMEL:BACTRIAN CAMEL:DOLPH",
    "IN:MOUSElk:COWlk:TIGERlk:RABBITlk:CATlk:DRAGONlk:SPOUTING WHALE:HORSElk:MONKEYlk:DOGlk:PIGlk:",
    "FROGlk:HAMSTERlk:WOLFlk:BEARlk:PANDAlk:PIG NOSE:PAW PRINTS:CHIPMUNK:EYES:EYE:EAR:NOSE:tr:TONG",
    "UE:klUPngBACKHANDlr;ldngBACKHANDlr;kangBACKHANDlr;jngBACKHANDlr:FISTEDrkf:WAVINGrkf:OKrkf:THU",
    "MBS UPf;ldf:CLAPPING HANDSf:mpHANDSf:CROWN:WOMANS HAT:EYEGLASSES:NECKTIE:T-SHIRT:JEANS:DRESS:",
    "KIMONO:BIKINI:WOMANS CLOTHES:PURSE:HANDBAG:POUCH:MANS SHOE:ATHLETIC SHOE:HIGH-HEELED SHOE:WOM",
    "ANS SANDAL;BOOTS:FOOTPRINTS:BUST IN SILHOUETTE:BUSTS IN SILHOUETTE:BOY:GIRL:MAN:WOMAN:FAMILY:",
    "MANgWOMAN HOLDING HANDS:kbMEN HOLDING HANDS;WOMEN HOLDING HANDS:POLICE OFFICER:WOMANaBUNNY EA",
    "RS:BRIDEaVEIL:vmaBLOND HAIR:MANaGUA PI MAO<TURBAN:OLDER MAN;WOMAN:BABY:CONSTRUCTION WORKER:PR",
    "INCESS:JAPANESE OGRE;GOBLIN:GHOST:BABY ANGEL:EXTRATERRESTRIAL ALIEN:ALIEN MONSTER:IMP:SKULL:z",
    "jDESKvm:GUARDSMAN:DANCER:LIPSTICK:NAIL POLISH:lkMASSAGE:HAIRCUT:BARBER POLE:SYRINGE:PILL:KISS",
    "kg:LOVEb:ma:GEM STONE:KISS:BOUQUET:COUPLEart:WEDDING:BEATINGrt:BROKENrt:kbuw:SPARKLINGrt:GROW",
    "INGrt:rtah:BLUErt:GREENrt:YELLOWrt:PURPLErt:rtaRIBBON:REVOLVINGuw:rtDECORATION:qdSHAPEaAkhty:",
    "ELECTRIClwBULB:ANGERkp:BOMB:SLEEPINGkp:COLLISIONkp:SPLASHING SWEATkp:DROPLET:pskp:PILE OF POO",
    ":FLEXED BICEPS:DIZZYkp:SPEECH BALLOON:THOUGHT BALLOON:klFLOWER:lgPOINTSkp:MONEY BAG:CURRENCY ",
    "EXCHANGE:kuDOLLARf:CREDIT CARD:BANKNOTEaYENf<DOLLARf<EUROf<POUNDf:MONEYaWINGS:CHARTamfTRENDgY",
    "ENf:SEAT:PERSONAL COMPUTER:BRIEFCASE:MINIDISC:FLOPPY DISK:OPTICAL DISC:DVD:FILE FOLDER:mpFILE",
    " FOLDER:PAGEaCURL;FACING UP:CALENDAR:TEAR-OFF CALENDAR:CARDlr:CHARTamfTREND<lzTREND:lbCHART:C",
    "LIPBOARD:PUSHPIN:ROUND PUSHPIN:PAPERCLIP:syRULER:toRULER:BOOKMARK TABS:LEDGER:NOTEBOOK;aDECOR",
    "ATIVE COVER:qqBOOK:mpBOOK:GREEN BOOK:BLUE BOOK:ORANGE BOOK:BOOKS:NAME BADGE:SCROLL:MEMO:xrREC",
    "EIVER:PAGER:FAX MACHINE:SATELLITE ANTENNA:PUBLIC ADDRESS LOUDSPEAKER:CHEERING MEGAPHONE:OUTBO",
    "X TRAY:INBOX TRAY:PACKAGE:E-MAILkp:INCOMINGyn:ynalzhi:qqMAILBOXaLOWERED FLAG=smFLAG:mpMAILBOX",
    "asmFLAG=LOWERED FLAG:POSTBOX:POSTALqu:NEWSPAPER:MOBILE PHONE<akthATka:VIBRATION MODE:MOBILE P",
    "HONE OFF:NO MOBILE PHONES:ANTENNAaBARS:CAMERA;aFLASH:VIDEO CAMERA:TELEVISION:RADIO:VIDEOCASSE",
    "TTE:FILM PROJECTOR:PORTABLE STEREO:PRAYER BEADS:TWISTEDktus:wrktglcmplnus?lnusaookdte;lzgmfmp",
    "lnus:uelzgmfmplnus:mcBRIGHTNESSkp:mvBRIGHTNESSkp:SPEAKERaCANCELLATIONko;;akdvaWAVE<kivaWAVES:",
    "BATTERY:ELECTRIC PLUG:ttMAGNIFYING GLASS:suMAGNIFYING GLASS:LOCKaINK PEN:qqLOCKaKEY:KEY:LOCK:",
    "mpLOCK:BELL;aCANCELLATIONko:BOOKMARK:LINKkp:RADIO BUTTON:BACKalchi:ENDalchi:ONaskkgakajhi:SOO",
    "Nakthi:pwamfhi:NOkdUNDERymkp:KEYCAPmr:INPUTkpqgogeLETTERS>cLETTERS=NUMBERS=SYMBOLS=ogLETTERS:",
    "FIRE:ELECTRIC TORCH:WRENCH:HAMMER:NUTgBOLT:HOCHO:PISTOL:MICROSCOPE:TELESCOPE:CRYSTAL BALL:kzq",
    "soeakskh:JAPANESEkpqgBEGINNER:TRIDENT EMBLEM:kjllBUTTON:klllBUTTON:nhREDln;BLUEln;ORANGEqd;BL",
    "UEqd:cORANGEqd;BLUEqd:wpREDmb:xiREDmb:wpcREDmb:xicREDmb:lxjxcklln:mjjxcklln:oophPOMMEE:phPOMM",
    "EEaHALF-CIRCLEkc<:NOTCHEDkaSEMICIRCLEakilm;jSEMICIRCLEakilm:kpqgMARKS CHAPTER:klogph:kuogph:C",
    "ELTICph:OMkp:DOVE OF PEACE:KAABA:MOSQUE:SYNAGOGUE:MENORAHaliBRANCHES:BOWL OF HYGIEIA:CLOCKlkk",
    "dOCLOCK<kbOCLOCK<kiOCLOCK<kmOCLOCK<kqOCLOCK<kzOCLOCK<leOCLOCK<laOCLOCK<liOCLOCK<mrOCLOCK<ELEV",
    "EN OCLOCK<woOCLOCK<ONE-THIRTY<TWO-THIRTY<THREE-THIRTY<FOUR-THIRTY<FIVE-THIRTY<SIX-THIRTY<SEVE",
    "N-THIRTY<EIGHT-THIRTY<NINE-THIRTY<TEN-THIRTY<ELEVEN-THIRTY<TWELVE-THIRTY:jSPEAKER<akdvaWAVE=k",
    "ivaWAVES:BULLHORN;avaWAVES:RINGING BELL:BOOK:CANDLE:MANTELPIECE CLOCK:kjSKULLgCROSSBONES:NO P",
    "IRACY:HOLE:MAN IN BUSINESS SUIT LEVITATING:SLEUTH OR SPY:DARK SUNGLASSES:SPIDER;WEB:JOYSTICK:",
    "MAN DANCING:karkxrRECEIVER:xrRECEIVERaPAGE:jrkxrRECEIVER:klTOUCHTONExr:kjTOUCHTONExr:xrONpwOF",
    " MODEM:CLAMSHELL MOBILE PHONE:BACK OFyn:STAMPEDyn:ynaLIGHTNING:FLYINGyn:PENloSTAMPEDyn:LINKED",
    " PAPERCLIPS:kjPUSHPIN:lxkaPENCIL<BALLPOINT PEN<FOUNTAIN PEN<PAINTBRUSH<CRAYON:kaWRITINGrk:mqO",
    "Krkf:smrkastSPLAYED:mysmrkastSPLAYED;THUMBS UPf<ldf;VICTORYrk;rkaksFINGERxt:smrkaPARTutksgmas",
    "t:klldngkarklr:yqklkanglr<jnglr;kjkanglr<jnglr:kjkangBACKHANDlr;jngBACKHANDlr:yqklUPnglr<ldng",
    "lr;kjUPnglr<ldnglr:kjUPngBACKHANDlr;ldngBACKHANDlr;rt:DESKTOP COMPUTER:KEYBOARDgMOUSE:kiNETWO",
    "RKED COMPUTERS:PRINTER:POCKET CALCULATOR:kjHARDswFLOPPY DISK:klHARDswFLOPPY DISK:SOFTswFLOPPY",
    " DISK:TAPE CARTRIDGE:WIRED KEYBOARD:kdBUTTON MOUSE:kbBUTTON MOUSE:kiBUTTON MOUSE:TRACKBALL:od",
    "PERSONAL COMPUTER:HARD DISK:SCREEN:PRINTER ICON:FAX ICON:OPTICAL DISC ICON:DOCUMENTaTEXT=gPIC",
    "TURE<PICTURE:FRAMEaPICTURE<TILES<AN X:kjFOLDER:FOLDER:mpFOLDER:CARDlrDIVIDERS;FILE BOX:FILE C",
    "ABINET:EMPTY NOTE<PAGE<PAD:NOTE;PAGE;PAD:EMPTY DOCUMENT;PAGE;PAGES:DOCUMENT:PAGE:PAGES:WASTEB",
    "ASKET:SPIRAL NOTE PAD;CALENDAR PAD:DESKTOP WINDOW:MINIMIZE:MAXIMIZE:OVERLAP:wrjgkaSEMICIRCLEu",
    "s:CANCELLATION X:INCREASE FONT SIZEkp:DECREASE FONT SIZEkp:COMPRESSION:odKEY:ROLLED-UP NEWSPA",
    "PER:PAGEaooTEXT:STOCK CHART:DAGGER KNIFE:LIPS:SPEAKING HEAD IN SILHOUETTE:kiRAYSi<kc<ka<j:kaS",
    "PEECH BUBBLE:jSPEECH BUBBLE:kbSPEECH BUBBLES:kiSPEECH BUBBLES:kaTHOUGHT BUBBLE:jTHOUGHT BUBBL",
    "E:kaANGER BUBBLE:jANGER BUBBLE:MOOD BUBBLE:LIGHTNING MOOD BUBBLE<:BALLOT BOXaBALLOT;rfX;BOXar",
    "fX;rorfX;BOXarorfX:lwCHECKkg:BALLOT BOXaroCHECK:WORLD MAP:MOUNT FUJI:TOKYO TOWER:STATUE OF LI",
    "BERTY:SILHOUETTE OF JAPAN:MOYAI:GRINNINGlk<auzEYES:lkaTEARS OF JOY:uzlkamptr?guzEYES?gCOLD SW",
    "EAT?gTIGHTLY-CLOSED EYES=HALO=HORNS:WINKINGlk:uzlkauzEYES:lkSAVOURING DELICIOUS FOOD:RELIEVED",
    "lk:uzlkaHEART-SHAPED EYES=SUNGLASSES:SMIRKINGlk:tjlk:EXPRESSIONLESSlk:UNAMUSEDlk:lkaCOLD SWEA",
    "T:PENSIVElk:CONFUSEDlk:CONFOUNDEDlk:KISSINGlk:lkTHROWING A KISS:KISSINGlkauzEYES=qqEYES:lkaST",
    "UCK-OUT TONGUE>gWINKING EYE?TIGHTLY-CLOSED EYES:DISAPPOINTEDlk:WORRIEDlk:ANGRYlk:POUTINGlk:CR",
    "YINGlk:PERSEVERINGlk:lkaLOOK OF TRIUMPH:DISAPPOINTED BUT RELIEVEDlk:FROWNINGlkamptr:ANGUISHED",
    "lk:FEARFULlk:WEARYlk:SLEEPYlk:TIREDlk:GRIMACINGlk:LOUDLY CRYINGlk:lkamptr:HUSHEDlk:lkamptrgCO",
    "LD SWEAT;SCREAMING IN FEAR:ASTONISHEDlk:FLUSHEDlk:SLEEPINGlk:DIZZYlk:lkWITHOUTtr;aMEDICAL MAS",
    "K:GRINNING CATlkauzEYES:CATlkaTEARS OF JOY:uzCATlkamptr>HEART-SHAPED EYES:CATlkaWRY SMILE:KIS",
    "SING CATlkaqqEYES:POUTING CATlk:CRYING CATlk:WEARY CATlk:SLIGHTLY FROWNINGlk;uzlk:UPSIDE-DOWN",
    "lk:lkaROLLING EYES<NO GOOD GESTURE<OK GESTURE:vmBOWING DEEPLY:SEE-NO-EVIL MONKEY:HEAR-NO-EVIL",
    " MONKEY:SPEAK-NO-EVIL MONKEY:HAPPYvmRAISINGkdrk:vmRAISING BOTH HANDS IN CELEBRATION;FROWNING;",
    "aPOUTINGlk<FOLDED HANDS:pboqngLEAF:proqngLEAF:pbnqngLEAF:prnqngLEAF:mqpboqngLEAF;proqngLEAF;p",
    "bnqngLEAF;prnqngLEAF:pboqngVINE LEAF:proqngVINE LEAF:pbnqngVINE LEAF:prnqngVINE LEAF:kupboqng",
    "VINE LEAF;proqngVINE LEAF;pbnqngVINE LEAF;prnqngVINE LEAF:pboqngBUD:proqngBUD:pbnqngBUD:prnqn",
    "gBUD:kupboqngBUD;proqngBUD;pbnqngBUD;prnqngBUD:HOLLOW QUILTllot>INkjll:SOLID QUILTllot>INkjll",
    ":lcROCKET:mfROCKET:ktROCKET:lzROCKET:rfqnETot:kurfqnETot:qnmpETot:kuqnmpETot;ytot:SWASHytot:t",
    "gkukfmqnvrqkgot=nvrqkgot<mckfnvrqkgot:kuINTERROBANGot:tgINTERROBANGot:kutgINTERROBANGot:sdkus",
    "x<tfsx:CHECKER BOARD:tfCHECKER BOARD:ROCKET:HELICOPTER:STEAM LOCOMOTIVE:RAILWAY CAR:HIGH-SPEE",
    "D TRAIN<aweNOSE:TRAIN:METRO:lwRAIL:STATION:TRAM;CAR:BUS:ONCOMING BUS:TROLLEYBUS:BUSnd:MINIBUS",
    ":AMBULANCE:FIRE ENGINE:POLICE CAR:ONCOMING POLICE CAR:TAXI:ONCOMING TAXI:AUTOMOBILE:ONCOMING ",
    "AUTOMOBILE:RECREATIONAL VEHICLE:DELIVERY TRUCK:ARTICULATED LORRY:TRACTOR:MONORAIL:MOUNTAIN RA",
    "ILWAY:SUSPENSION RAILWAY:MOUNTAIN CABLEWAY:AERIAL TRAMWAY:SHIP:ROWBOAT:SPEEDBOAT:lvTRAFFIClw:",
    "kwTRAFFIClw:CONSTRUCTIONf:POLICE CARS REVOLVINGlw:toFLAG ON POST:DOOR:NO ENTRYf:SMOKINGkp:NO ",
    "SMOKINGkp:PUT LITTER IN ITS PLACEkp:DOoaLITTERkp:POTABLE WATERkp:NON-POTABLE WATERkp:BICYCLE:",
    "NO BICYCLES:BICYCLIST:MOUNTAIN BICYCLIST:PEDESTRIAN:NO PEDESTRIANS:CHILDRENri:MENSkp:WOMENSkp",
    ":RESTROOM:BABYkp:TOILET:WATER CLOSET:SHOWER:BATH:BATHTUB:PASSPORT CONTROL:CUSTOMS:BAGGAGE CLA",
    "IM:kaLUGGAGE:mbaROUNDED CORNERS:PROHIBITEDf:oozjSOURCE:BOYSkp:GIRLSkp:COUCHgLAMP:SLEEPING ACC",
    "OMMODATION:SHOPPING BAGS:BELLHOP BELL:BED:PLACE OF WORSHIP:OCTAGONALf:SHOPPING TROLLEY:STUPA:",
    "PAGODA:HINDU TEMPLE:HUT:ELEVATOR"]),
  (0x1F6DD, [":PLAYGROUND SLIDE:WHEEL:maBUOY:HAMMERgWRENCH:SHIELD:OIL DRUM:MOTORWAY:RAILWAY TRACK:",
    "MOTOR BOAT:wpMILITARY AIRPLANE;AIRPLANE;cAIRPLANE:cAIRPLANE:NORTHEAST-POINTING AIRPLANE:AIRPL",
    "ANE DEPARTURE;ARRIVING"]),
  (0x1F6F0, [":SATELLITE:ONCOMING FIRE ENGINE:DIESEL LOCOMOTIVE:PASSENGER SHIP:SCOOTER:MOTOR SCOOT",
    "ER:CANOE:SLED:FLYING SAUCER:SKATEBOARD:AUTO RICKSHAW:PICKUP TRUCK:ROLLER SKATE"]),
  (0x1F700, [":ALCHEMICALkpqgQUINTESSENCE=AIR=FIRE=EARTH=WATER=AQUAFORTIS=AQUA REGIA>REGIA-2>VITAE",
    ">VITAE-2=VINEGAR=VINEGAR-2@=SULFUR=PHILOSOPHERS SULFUR=kjSULFUR=MERCURY SUBLIMATE>SUBLIMATE-2",
    "@=CINNABAR=SALT=NITRE=VITRIOL=VITRIOL-2=ROCK SALT>SALT-2=GOLD=SILVER=IRON ORE>ORE-2=CROCUS OF",
    " IRON=REGULUS OF IRON=COPPER ORE=IRON-COPPER ORE=SUBLIMATE OF COPPER=CROCUS OF COPPER?COPPER-",
    "2=COPPER ANTIMONIATE=SALT OF COPPER ANTIMONIATE=SUBLIMATE OF SALT OF COPPER=VERDIGRIS=TIN ORE",
    "=LEAD ORE=ANTIMONY ORE=SUBLIMATE OF ANTIMONY=SALT OF ANTIMONY=SUBLIMATE OF SALT OF ANTIMONY=V",
    "INEGAR OF ANTIMONY=REGULUS OF ANTIMONY?ANTIMONY-2>=REGULUS-2@@=ALKALI=ALKALI-2=MARCASITE=SAL-",
    "AMMONIAC=ARSENIC=REALGAR=REALGAR-2=AURIPIGMENT=BISMUTH ORE=TARTAR=TARTAR-2=QUICK LIME=BORAX=B",
    "ORAX-2@=ALUM=OIL=SPIRIT=TINCTURE=GUM=WAX=POWDER=CALX=TUTTY=CAPUT MORTUUM=SCEPTER OF JOVE=CADU",
    "CEUS=TRIDENT=STARRED TRIDENT=LODESTONE=SOAP=URINE=HORSE DUNG=ASHES=POT ASHES=BRICK=POWDERED B",
    "RICK=AMALGAM=STRATUM SUPER STRATUM?STRATUM-2=SUBLIMATION=PRECIPITATE=DISTILL=DISSOLVE=DISSOLV",
    "E-2=PURIFY=PUTREFACTION=CRUCIBLE=CRUCIBLE-2@@@=ALEMBIC=BATH OF MARY?VAPOURS=RETORT=HOUR=NIGHT",
    "=DAY-NIGHT=MONTH=lfDRAM>OUNCE"]),
  (0x1F780, [":kjttISOSCELESjmb;wpISOSCELESjmb;suISOSCELESjmb;xiISOSCELESjmb;SLIGHTLYcln:mhroklln:",
    "roklln:kuklln:sdkuklln:EXTREMELYkuklln:kllnzikjcln:ROUND TARGET:kjTINYll;SLIGHTLYcll:lwklll:m",
    "hklll:roklll:kuklll:sdkuklll:EXTREMELYkuklll:klllzikjsdcll>mhll:llTARGET:kjTINYqd;sdcqd;mhcqd",
    ":klqdzikjsdcqd>mhqd:qdTARGET:kjTINYww;sdcww;mhcww:klwwzikjcww:THINplph:lwplph:mhplph:roplph:s",
    "droplph;kuplph:EXTREMELYkuplph:THINxy:lwxy:mhxy:roxy:kuxy:sdkuxy:EXTREMELYkuxy:lwkquppg:mhkqu",
    "ppg:rokquppg:kukquppg:sdkukquppg:EXTREMELYkukquppg:lwkzuppg:mhkzuppg:rokzuppg:kukzuppg:sdkukz",
    "uppg:EXTREMELYkukzuppg:lwlauppg:mhlauppg:rolauppg:kulauppg:sdkulauppg:lwkiqskjoe:mhkiqskjoe:k",
    "iqskjoe:mhkiqsypoe:lwkmqskjoe:mhkmqskjoe:kmqskjoe:mhkmqsypoe:tflwkmqsypoe:lwkqqskjoe:kukqqskj",
    "oe:mhkzqskjoe:kukzqskjoe:kzqsypoe:mhlaqskjoe:kulaqskjoe:sdkulaqskjoe:kulaqsypoe:lwwoqskjoe:ku",
    "woqskjoe=ypoe:oomb:vloomb:ooll:vlooll"]),
  (0x1F7E0, [":nhORANGEln;YELLOWln;GREENln;PURPLEln;BROWNln;REDll;BLUEll;ORANGEll;YELLOWll;GREENll",
    ";PURPLEll;BROWNll"]),
  (0x1F7F0, [":kuqrf"]),
  (0x1F800, [":lchacmbnf:mfhacmbnf:kthacmbnf:lzhacmbnf:lchamhmbnf:mfhamhmbnf:kthamhmbnf:lzhamhmbnf",
    ":lchanhmbnf:mfhanhmbnf:kthanhmbnf:lzhanhmbnf"]),
  (0x1F810, [":lchacssnf:mfhacssnf:kthacssnf:lzhacssnf:lchassnf:mfhassnf:kthassnf:lzhassnf:kulchas",
    "snf;mfhassnf;kthassnf;lzhassnf;lchanhssnf;mfhanhssnf;kthanhssnf;lzhanhssnf:lcnehaNARROWtk:mfn",
    "ehaNARROWtk:ktnehaNARROWtk:lznehaNARROWtk:lcnehamhtk:mfnehamhtk:ktnehamhtk:lznehamhtk:lcnehar",
    "otk:mfneharotk:ktneharotk:lzneharotk:lcnehakutk:mfnehakutk:ktnehakutk:lznehakutk:lcnehasdkutk",
    ":mfnehasdkutk:ktnehasdkutk:lznehasdkutk:lcFINGER-POSTh:mfFINGER-POSTh:ktFINGER-POSTh:lzFINGER",
    "-POSTh:lcqoh:mfqoh:ktqoh:lzqoh:lcyuh:mfyuh:ktyuh:lzyuh:lckuyuh:mfkuyuh:ktkuyuh:lzkuyuh:lckuh:",
    "mfkuh:ktkuh:lzkuh"]),
  (0x1F850, [":lctgh:mftgh:kttgh:lztgh:pboqtgh;nqtgh:prnqtgh;oqtgh:kajtgh:UPldtgh"]),
  (0x1F860, [":WIDE-HEADEDlclwmdh;mflwmdh;ktlwmdh;lzlwmdh;pboqlwmdh<nqlwmdh;prnqlwmdh<oqlwmdh;lcmd",
    "h;mfmdh;ktmdh;lzmdh;pboqmdh<nqmdh;prnqmdh<oqmdh;lcmhmdh;mfmhmdh;ktmhmdh;lzmhmdh;pboqmhmdh<nqm",
    "hmdh;prnqmhmdh<oqmhmdh;lckumdh;mfkumdh;ktkumdh;lzkumdh;pboqkumdh<nqkumdh;prnqkumdh<oqkumdh;lc",
    "sdkumdh;mfsdkumdh;ktsdkumdh;lzsdkumdh;pboqsdkumdh<nqsdkumdh;prnqsdkumdh<oqsdkumdh"]),
  (0x1F890, [":lcmbnf:mfmbnf:ktmbnf:lzmbnf:lcklhWITHINmbnf:mfklhWITHINmbnf:ktklhWITHINmbnf:lzklhWI",
    "THINmbnf:lchaNOTCHEDon:mfhaNOTCHEDon:kthaNOTCHEDon:lzhaNOTCHEDon:kuhtkWIDTHkd>kbTHIRDS>kdlf?T",
    "HIRD:lcBOTTOM-SHADEDklh:ktqzSHADEDklh:lcpwSHADEDklh:ktpwSHADEDklh:lcLEFT-SHADEDklh:ktRIGHT-SH",
    "ADEDklh:lcRIGHT-SHADEDklh:ktLEFT-SHADEDklh:lcBACK-TILTEDxcklh:ktBACK-TILTEDxcklh:lcFRONT-TILT",
    "EDxcklh:ktFRONT-TILTEDxcklh:klhtkWIDTHkd>kbTHIRDS"]),
  (0x1F8B0, [":hngmfTHENpboq<ktTHEN CURVINGproq"]),
  (0x1F900, [":oophFORMEEakmlm>kblm=:kalflnakmlm>kilm>kblm>kh=:DOWNWARD FACINGkn<NOTCHEDkn<knakh<N",
    "OTCHEDknakh:PINCHEDst:klrt:BROWNrt:PINCHINGrk:ZIPPER-MOUTHlk:MONEY-MOUTHlk:lkaTHERMOMETER:NER",
    "Dlk:THINKINGlk:lkaHEAD-BANDAGE:ROBOTlk:HUGGINGlk:fOF THE HORNS:CALL MErk:smBACK OFrk:LEFT-FAC",
    "ING FIST:RIGHT-FACING FIST:HANDSHAKE:rkalrgksstws:I LOVE YOUrkf:lkaCOWBOY HAT:CLOWNlk:NAUSEAT",
    "EDlk:ROLLING ON THE FLOOR LAUGHING:DROOLINGlk:LYINGlk:lkPALM:SNEEZINGlk:lkakdEYEBROWsm:GRINNI",
    "NGlkaoeEYES=kdnhgkdcEYE:lkaFINGER COVERINGqqLIPS:SERIOUSlkaSYMBOLS COVERINGtr:uzlkauzEYESgrkC",
    "OVERINGtr:lkamptrVOMITING:SHOCKEDlkaEXPLODING HEAD:PREGNANT WOMAN:BREAST-FEEDING:PALMS UP TOG",
    "ETHER:SELFIE:PRINCE:MAN IN TUXEDO:MOTHER CHRISTMAS:SHRUG:vmDOING CARTWHEEL:JUGGLING:FENCER:MO",
    "DERN PENTATHLON:WRESTLERS:WATER POLO:HANDBALL:DIVING MASK:WILTED FLOWER:DRUMaDRUMSTICKS:CLINK",
    "ING GLASSES:TUMBLER GLASS:SPOON:GOAL NET:RIFLE:FIRST PLACE MEDAL:SECOND PLACE MEDAL:THIRD PLA",
    "CE MEDAL:BOXING GLOVE:MARTIAL ARTS UNIFORM:CURLING STONE:LACROSSE STICKgBALL:SOFTBALL:FLYING ",
    "DISC:CROISSANT:AVOCADO:CUCUMBER:BACON:POTATO:CARROT:BAGUETTE BREAD:GREEN SALAD:SHALLOW PAN OF",
    " FOOD:STUFFED FLATBREAD:EGG:GLASS OF MILK:PEANUTS:KIWIFRUIT:PANCAKES:DUMPLING:FORTUNE COOKIE:",
    "TAKEOUT BOX:CHOPSTICKS:BOWLaSPOON:CUPaSTRAW:COCONUT:BROCCOLI:PIE:PRETZEL:CUT OF MEAT:SANDWICH",
    ":CANNED FOOD:LEAFY GREEN:MANGO:slCAKE:BAGEL:uzlkauzEYESgkiuw:YAWNINGlk:uzlkaTEAR:lkaPARTYqugP",
    "ARTY HAT<UNEVEN EYESgWAVYtr:OVERHEATEDlk:FREEZINGlk:NINJA:DISGUISEDlk:lkHOLDING BACK TEARS;aP",
    "LEADING EYES:SARI:LAB COAT:GOGGLES:HIKING BOOT:FLAT SHOE:CRAB:LIONlk:SCORPION:TURKEY:UNICORNl",
    "k:EAGLE:DUCK:BAT:SHARK:OWL:FOXlk:BUTTERFLY:DEER:GORILLA:LIZARD:RHINOCEROS:SHRIMP:SQUID:GIRAFF",
    "Elk:ZEBRAlk:HEDGEHOG:SAUROPOD:T-REX:CRICKET:KANGAROO:LLAMA:PEACOCK:HIPPOPOTAMUS:PARROT:RACCOO",
    "N:LOBSTER:MOSQUITO:MICROBE:BADGER:SWAN:MAMMOTH:DODO:SLOTH:OTTER:ORANGUTAN:SKUNK:FLAMINGO:OYST",
    "ER:BEAVER:BISON:SEAL:GUIDE DOG:PROBING CANE:EMOJI COMPONENT RED HAIR<siHAIR<BALD<klHAIR:BONE:",
    "LEG:FOOT:TOOTH:SUPERHERO:SUPERVILLAIN:SAFETY VEST:EARaHEARING AID:MOTORIZED WHEELCHAIR:MANUAL",
    " WHEELCHAIR:MECHANICAL ARM;LEG:CHEESE WEDGE:CUPCAKE:SALT SHAKER:BEVERAGE BOX:GARLIC:ONION:FAL",
    "AFEL:WAFFLE:BUTTER:MATE DRINK:ICE CUBE:BUBBLE TEA:TROLL:STANDINGvm:KNEELINGvm:DEAFvm:lkaMONOC",
    "LE:ADULT:CHILD:OLDER ADULT:BEARDEDvm:vmaHEADSCARF;IN STEAMY ROOM;CLIMBING;IN LOTUS POSITION:M",
    "AGE:FAIRY:VAMPIRE:MERPERSON:ELF:GENIE:ZOMBIE:BRAIN:ORANGErt:BILLED CAP:SCARF:GLOVES:COAT:SOCK",
    "S:RED GIFTyn:FIRECRACKER:JIGSAW PUZZLE PIECE:TEST TUBE:PETRItd:DNAkfHELIX:COMPASS:ABACUS:FIRE",
    " EXTINGUISHER:TOOLBOX:BRICK:MAGNET:LUGGAGE:LOTION BOTTLE:SPOOL OF THREAD:BALL OF YARN:SAFETY ",
    "PIN:TEDDY BEAR:BROOM:BASKET:ROLL OF PAPER:lbOF SOAP:SPONGE:RECEIPT:NAZAR AMULET:tjraKING<vn<R",
    "OOK<BISHOP<sb<PAWN:klrasbnrFORTY-FIVEos:kjrasbnrFORTY-FIVEos:tjrasbnrFORTY-FIVEos:klraKINGnrq",
    "kos<vnnrqkos<ROOKnrqkos<BISHOPnrqkos<sbnrqkos<PAWNnrqkos:kjraKINGnrqkos<vnnrqkos<ROOKnrqkos<B",
    "ISHOPnrqkos<sbnrqkos<PAWNnrqkos:tjraKINGnrqkos<vnnrqkos<ROOKnrqkos<BISHOPnrqkos<sbnrqkos<PAWN",
    "nrqkos:klrasbnrkdlgTHIRTY-FIVEos:kjrasbnrkdlgTHIRTY-FIVEos:tjrasbnrkdlgTHIRTY-FIVEos:klramqKI",
    "NG=vn=ROOK=BISHOP=sb=PAWN:kjramqKING=vn=ROOK=BISHOP=sb=PAWN:tjramqKING=vn=ROOK=BISHOP=sb=PAWN",
    ":klrasbnrkblgTWENTY-FIVEos:kjrasbnrkblgTWENTY-FIVEos:tjrasbnrkblgTWENTY-FIVEos:klraKINGnrkblg",
    "qvos<vnnrkblgqvos<ROOKnrkblgqvos<BISHOPnrkblgqvos<sbnrkblgqvos<PAWNnrkblgqvos:kjraKINGnrkblgq",
    "vos<vnnrkblgqvos<ROOKnrkblgqvos<BISHOPnrkblgqvos<sbnrkblgqvos<PAWNnrkblgqvos:tjraKINGnrkblgqv",
    "os<vnnrkblgqvos<ROOKnrkblgqvos<BISHOPnrkblgqvos<sbnrkblgqvos<PAWNnrkblgqvos:klrasbnrkilgxuos:",
    "kjrasbnrkilgxuos:tjrasbnrkilgxuos:klraEQUIHOPPER:kjraEQUIHOPPER:tjraEQUIHOPPER:klraEQUIHOPPER",
    "nrqkos:kjraEQUIHOPPERnrqkos:tjraEQUIHOPPERnrqkos:klraKNIGHT-QUEEN<KNIGHT-ROOK<KNIGHT-BISHOP:k",
    "jraKNIGHT-QUEEN<KNIGHT-ROOK<KNIGHT-BISHOP"]),
  (0x1FA60, [":XIANGQI RED GENERAL<MANDARIN<ELEPHANT<HORSE<CHARIOT<CANNON<SOLDIER;kjGENERAL<MANDAR",
    "IN<ELEPHANT<HORSE<CHARIOT<CANNON<SOLDIER"]),
  (0x1FA70, [":BALLET SHOES:ONE-PIECE SWIMSUIT:BRIEFS:SHORTS:THONG SANDAL"]),
  (0x1FA78, [":DROP OF BLOOD:ADHESIVE BANDAGE:STETHOSCOPE:X-RAY:CRUTCH"]),
  (0x1FA80, [":YO-YO:KITE:PARACHUTE:BOOMERANG:MAGIC WAND:PINATA:NESTING DOLLS"]),
  (0x1FA90, [":RINGED PLANET:CHAIR:RAZOR:AXE:DIYA LAMP:BANJO:MILITARY HELMET:ACCORDION:moDRUM:COIN",
    ":CARPENTRY SAW:SCREWDRIVER:LADDER:kn:MIRROR:WINDOW:PLUNGER:SEWING NEEDLE:KNOT:BUCKET:MOUSE TR",
    "AP:TOOTHBRUSH:HEADSTONE:PLACARD:ROCK:MIRROR BALL:IDENTIFICATION CARD:mcBATTERY:HAMSA"]),
  (0x1FAB0, [":FLY:WORM:BEETLE:COCKROACH:POTTED PLANT:WOOD:FEATHER:LOTUS:CORAL:EMPTY NEST:NESTaEGG",
    "S"]),
  (0x1FAC0, [":ANATOMICALrt:LUNGS:PEOPLE HUGGING:PREGNANT MAN;vm:vmaCROWN"]),
  (0x1FAD0, [":BLUEBERRIES:BELL PEPPER:OLIVE:FLATBREAD:TAMALE:FONDUE:TEAPOT:POURING LIQUID:BEANS:J",
    "AR"]),
  (0x1FAE0, [":MELTINGlk:SALUTINGlk:lkampEYESgrklotr<PEEKING EYE<pktr:qemwlk:BITING LIP:BUBBLES"]),
  (0x1FAF0, [":rkalrFINGERgmlws:ktrk:lcrk:PALMldrk;UPrk:lrngAT THE VIEWER:rtHANDS"]),
  (0x1FB00, [":nySEXTANT-1@;SEXTANT-12;SEXTANT-3;SEXTANT-13;SEXTANT-23;SEXTANT-123;SEXTANT-4;SEXTA",
    "NT-14;SEXTANT-24;SEXTANT-124;SEXTANT-34;SEXTANT-134;SEXTANT-234;SEXTANT-1234;SEXTANT-5;SEXTAN",
    "T-15;SEXTANT-25;SEXTANT-125;SEXTANT-35;SEXTANT-235;SEXTANT-1235;SEXTANT-45;SEXTANT-145;SEXTAN",
    "T-245;SEXTANT-1245;SEXTANT-345;SEXTANT-1345;SEXTANT-2345;SEXTANT-12345;SEXTANT-6;SEXTANT-16;S",
    "EXTANT-26;SEXTANT-126;SEXTANT-36;SEXTANT-136;SEXTANT-236;SEXTANT-1236;SEXTANT-46;SEXTANT-146;",
    "SEXTANT-1246;SEXTANT-346;SEXTANT-1346;SEXTANT-2346;SEXTANT-12346;SEXTANT-56;SEXTANT-156;SEXTA",
    "NT-256;SEXTANT-1256;SEXTANT-356;SEXTANT-1356;SEXTANT-2356;SEXTANT-12356;SEXTANT-456;SEXTANT-1",
    "456;SEXTANT-2456;SEXTANT-12456;SEXTANT-3456;SEXTANT-13456;SEXTANT-23456:lxkanypklxkskaTOlxns?",
    "kskaTOlxj>mjkskaTOlxns?kskaTOlxj?kaTOlxns;jnypkmjkskaTOmjns?kskaTOmjj>lxkskaTOmjns?kskaTOmjj?",
    "kaTOmjns?kskaTOmjksj?nsTOlxksj?kaTOlxksj?nsTOmjksj?kaTOmjksj?nsTOmjj;kanypkmjnsTOmjksj?kaTOmj",
    "ksj?nsTOlxksj?kaTOlxksj?nsTOlxj?kskaTOlxksj:mjjnypklxkskaTOlxns?kskaTOlxj>mjkskaTOlxns?kskaTO",
    "lxj?kaTOlxns;kanypkmjkskaTOmjns?kskaTOmjj>lxkskaTOmjns?kskaTOmjj?kaTOmjns?kskaTOmjksj?nsTOlxk",
    "sj?kaTOlxksj?nsTOmjksj?kaTOmjksj?nsTOmjj;jnypkmjnsTOmjksj?kaTOmjksj?nsTOlxksj?kaTOlxksj?nsTOl",
    "xj?kskaTOlxksj;gjglxtokiwcny:kaglxgjtokiwcny:mjgkaglxtokiwcny:kagmjgjtokiwcny;tokdqyny:mjtokd",
    "qyny:jtokdqyny:lxtokdqyny:kwkdsfBLOCK-2@@@@@:lvkdsfBLOCK-2@@@@@:kaglxkdsfny<mjkdsfny:jgmjkdsf",
    "ny<lxkdsfny:mjglxkdsfny:lvkdsfBLOCK-1358:mjkdqyny;kivtny;kqvtny;kiwcny;levtny:jkdqyny;kivtny;",
    "kqvtny;kiwcny;levtny:kalfmhSHADE:jlfmhSHADE:mjlfmhSHADE:lxlfmhSHADE:ydmhSHADE:mjlfnyglxlfydmh",
    "SHADE<ydmhSHADEglxlfny"]),
  (0x1FB94, [":kalfydmhSHADEgjlfny:CHECKER BOARD FILL:ydCHECKER BOARD FILL:kulvFILL:mjkaTOlxjFILL;",
    "jTOlxkaFILL;glxtolfny:kagjtolfny:mjkatomhSHADE;jtomhSHADE:lxjtomhSHADE;katomhSHADE:BOX DRAWIN",
    "GSlwpkmjnsTOkska?nsTOksj>kskaTOlxns?jTOlxns>mjnsTOkskaTOlxns?nsTOksjTOlxns>kskaTOlxnsTOksj?ka",
    "TOmjnsTOksj>mjnsTOkskagksjTOlxns?nsTOksjgkskaTOlxns?nsTOksjTOlxnsTOkska?nsTOkskaTOlxnsTOksj>k",
    "skaTOmjnsTOksjTOlxns?jTOmjnsTOkskaTOlxns>qd=lvakwko:ARROWHEAD-SHAPED POINTER:ydCHECKkg:kalfRU",
    "NNING MAN:jlfRUNNING MAN:ydlzhaTIPlc:lchgmjglxkdsfny:kthgmjglxkdsfny:lzhgjkdsfny:mfhgjkdsfny:",
    "kalfFOLDER:jlfFOLDER:VOIDEDplph:jmpqokh:vlpkph<ksjTOlxns<qd:klkuxyaROUNDED CORNERS:kaTHIRDklj",
    "nglr:ksTHIRDkljnglr:jTHIRDkljnglr:vlqorwkg:STICK FIGURE<aARMSsm<LEANINGka=j<aDRESS:klwpCHEVRO",
    "N"]),
  (0x1FBF0, [":SEGMENTEDlumk<kd<kb<ki<km<kq<kz<le<la<li"]),
  (0xE0001, [":LANGUAGE TAG"]),
  (0xE0020, [":TAGtm;skkg;rqkg;npf;DOLLARf;PERCENTf;yt;yi;kapt;jpt;pg;kvf;nv;HYPHEN-MINUS;ovnd;sx;",
    "lumk<kd<kb<ki<km<kq<kz<le<la<li;rb;xp;nzf;qrf;obf;rwkg;COMMERCIAL AT;ogebA>B>C>D>E>F>G>H>I>J>",
    "K>L>M>N>O>P>Q>R>S>T>U>V>W>X>Y>Z;kalllj;tfsx;jlllj;msqf;mcmw;niqf;ogcbA>B>C>D>E>F>G>H>I>J>K>L>",
    "M>N>O>P>Q>R>S>T>U>V>W>X>Y>Z;kasilj;kwmw;jsilj;ly:CANCEL TAG"]),
  (0xE0100, [":VARIATION SELECTOR-17@@@@@@@@@@@@@@@@@@@@@@@@@@@@@@@@@@@@@@@@@@@@@@@@@@@@@@@@@@@@@@",
    "@@@@@@@@@@@@@@@@@@@@@@@@@@@@@@@@@@@@@@@@@@@@@@@@@@@@@@@@@@@@@@@@@@@@@@@@@@@@@@@@@@@@@@@@@@@@@",
    "@@@@@@@@@@@@@@@@@@@@@@@@@@@@@@@@@@@@@@@@@@@@@@@@@@@@@@@@@@@@@@@@@@@@@@@@@@@@@@@@@@@@"])
]

end MetesBounds.Text.CharName
