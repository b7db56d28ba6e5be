import MetesBounds.Text.CharName.Block

/-!
# `Text/CharName/Sign` — the names of punctuation, currencies, arrows, mathematics, drawing and
Braille
-/

set_option autoImplicit false

namespace MetesBounds.Text.CharName

/-- Names of punctuation, currencies, arrows, mathematics, drawing and Braille. -/
def sign : List Block := [
  (0x2000, [":EN QUAD:EM QUAD:ENtm:EMtm:THREE-PER-EMtm:FOUR-PER-EMtm:SIX-PER-EMtm:FIGUREtm:pqtm:TH",
    "INtm:HAIRtm:mkWIDTHtm<NON-JOINER<JOINER:zvkg:RIGHT-TO-LEFTkg:HYPHEN:NON-BREAKING HYPHEN:FIGUR",
    "Eps:ENps:EMps:lvlb:kfkwmw;mcmw:kancrqkg:jncrqkg:ncLOW-9rqkg;HIGH-REVERSED-9rqkg:kakfrqkg:jkfr",
    "qkg:kfLOW-9rqkg;HIGH-REVERSED-9rqkg:DAGGER:kfDAGGER:we:towe:kdkhLEADER:kbkhLEADER:lvELLIPSIS:",
    "HYPHENATION POINT:mwrg:PARAGRAPHrg:zvEMBEDDING:RIGHT-TO-LEFT EMBEDDING:POP DIRECTIONAL FORMAT",
    "TING:zvOVERRIDE:RIGHT-TO-LEFT OVERRIDE:NARROW NO-BREAKtm:PER MILLEf;mrlqf:PRIME:kfPRIME:pfPRI",
    "ME:myPRIME;kfPRIME;pfPRIME:CARET:ncttorrqkg;suorrqkg:REFERENCEkg:kfskkg:INTERROBANG:OVERLINE:",
    "UNDERTIE:veTIE:CARET INSERTION POINT:ASTERISM:HYPHENwe:twvp:kallljaQUILL:jllljaQUILL:kfrwkg:r",
    "wskkg:skrwkg:TIRONIANfET:myPILCROWf:kjlcwe;ktwe:mcpg:myxp:CLOSE UP:kbASTERISKS ALIGNEDzm:COMM",
    "ERCIALunf:SWUNGps:nmUNDERTIE:FLOWERpqkg:kikhpq:xxPRIME:kmkhpq:kqkhpq:kbkhpq:kmkhkg:qeph:TRICO",
    "LON:kwkmlm:mhoctm:WORD JOINER:FUNCTION APPLICATION:INVISIBLEky;rg;kv"]),
  (0x2066, [":zvISOLATE:RIGHT-TO-LEFT ISOLATE:FIRST STRONG ISOLATE:POP DIRECTIONAL ISOLATE:INHIBIT",
    " SYMMETRIC SWAPPING:ACTIVATE SYMMETRIC SWAPPING:INHIBITnxdSHAPING:ACTIVATEnxdSHAPING:NATIONAL",
    "luSHAPES:NOMINALluSHAPES:wmmk;ogcbI"]),
  (0x2074, [":wmkm;kq;kz;le;la;li;kvf;un;qrf;kapt;jpt;ogcbN:SUBSCRIPTmk;kd;kb;ki;km;kq;kz;le;la;li",
    ";kvf;un;qrf;kapt;jpt"]),
  (0x2090, [":ogSUBSCRIPTcbA>E>O>X>SCHWA>H>K>L>M>N>P>S>T"]),
  (0x20A0, [":EURO-CURRENCYf:rbf:CRUZEIROf:FRENCH FRANCf:LIRAf:MILLf:NAIRAf:PESETAf:RUPEEf:WONf:NE",
    "W SHEQELf:DONGf:EUROf:KIPf:TUGRIKf:DRACHMAf:GERMAN PENNYf:PESOf:GUARANIf:AUSTRALf:HRYVNIAf:CE",
    "DIf:LIVRE TOURNOISf:SPESMILOf:TENGEf:INDIAN RUPEEf:TURKISH LIRAf:NORDICkgf:MANATf:RUBLEf:LARI",
    "f:BITCOINf:SOMf"]),
  (0x20D0, [":pjkaoii;joii;mokwmwte;oukwmwte;uehi;wrhi;kahi;jhi;mate;wrmate;uemate;kilmi;kmlmi;ENC",
    "LOSINGln<ll<qd<lnBACKSLASH;kajhi;ENCLOSING SCREEN<KEYCAP<UPWARDngmb;tfsxte;kfkwkote;ANNUITYkp",
    ";pfUNDERDOT;WIDE BRIDGEi;lchte;mokfsxte;ktoiamdlz;lcoiamdlz;kahkc;jhkc;pgi"]),
  (0x2100, [":ACCOUNT OF:ADDRESSED TO THE SUBJECT:ugeC:DEGREE CELSIUS:nsmwkp:CARE OF:CADA UNA:EULE",
    "R CONSTANT:SCRUPLE:DEGREE FAHRENHEIT:rfcG;eH:BLACK-LETTEReH:ugeH:PLANCK CONSTANT<lokbPI:rfeI:",
    "BLACK-LETTEReI:rfeL;cL:L Blbkp:ugeN:NUMEROf:vaRECORDING COPY",
    "RIGHT:rfeP:ugeP<Q:rfeR:BLACK-LETT",
    "EReR:ugeR:PRESCRIPTION TAKE:RESPONSE:SERVICEkg:xrf:TRADEkgf:VERSICLE:ugeZ:OUNCEf:OHMf:nmOHMf:",
    "BLACK-LETTEReZ:mqplcbrd:KELVINf:ANGSTROMf:rfeB:BLACK-LETTEReC:ESTIMATEDkp:rfcE;eE<F:mqeF:rfeM",
    ";cO:lskp:BETkp:vhkp:DALETkp:zjSOURCE:nreQ:FACSIMILEf:ugcPI<ti;eti<PI;N-ARY SUMMATION:mqtgeG=L",
    ":mytgeL:mqtgeY:ugwueD<cD=E=I=J:PROPERTYmw:mqyt:PERf:AKTIESELSKAB:mqcF:kpqgSAMARITAN SOURCE:VU",
    "LGARtwkdSEVENTH=NINTH=TENTH=THIRD<kbTHIRDS<kdFIFTH<kbFIFTHS<kiFIFTHS<kmFIFTHS<kdSIXTH<kqSIXTH",
    "S<kdsf<kivt<kqvt<levt:twNUMERATORkd:ROMAN NUMERALkd<kb<ki<km<kq<kz<le<la<li<mr<ELEVEN<wo<qx<k",
    "dlg<kqlg<kdlq:cROMAN NUMERALkd=kb=ki=km=kq=kz=le=la=li=mr=ELEVEN=wo=qx=kdlg=kqlg=kdlq:ROMAN N",
    "UMERALkdlqC D<kqlq<mrlq<mykdlg:ogcbmyC:ROMAN NUMERALkzLATEd<qxEARLYd=lq<kdlglq:VULGARtwmkTHIR",
    "DS:mqlukb<ki"]),
  (0x2190, [":lch:mfh:kth:lzh:kajh:UPldh:pboqh;nqh:prnqh;oqh:lchako:kthako:lcWAVEh:ktWAVEh:lckbHEA",
    "DEDh:mfkbHEADEDh:ktkbHEADEDh:lzkbHEADEDh:lchaon:kthaon:lchrjlb:mfhrjlb:kthrjlb:lzhrjlb:UPldha",
    "BASE:lchakn:kthakn:lchaLOOP:kthaLOOP:kajWAVEh<hako:lzZIGZAGh:mfhaTIPlc>kt:lzhaTIPlc>kt:ktharc",
    "lz:lzharclc:uepwSEMICIRCLEh:wrpwSEMICIRCLEh:pboqhTOmolb:lchTOlblokthTOlb:uemplnh:wrmplnh:lcoi",
    "amdmf>lz:mfoiamdkt>lc:ktoiamdmf>lz:lzoiamdkt>lc:kthlolch:mfhlcOFlzh:lchlokth;PAIREDus:mfPAIRE",
    "Dus:ktPAIREDus:lzPAIREDus:lcoiloktoi:ktoilolcoi:lckfhako:kajkfhako:ktkfhako:lckfh:mfkfh:ktkfh",
    ":lzkfh:kajkfh:UPldkfh:pboqkfh;nqkfh:prnqkfh;oqkfh:lcpfh:ktpfh:lcSQUIGGLEh:ktSQUIGGLEh:mfhakfk",
    "o:lzhakfko:lcwth:mfwth:ktwth:lzwth:lchTOlb:kthTOlb:lcklh:mfklh:ktklh:lzklh:mfklhrjlb=ON PEDES",
    "TAL?alvlb?akwlb<kfh>ON PEDESTAL:ktklhrjWALL:pboqhTOrc:prnqhTOrc:UPldklh:jhacln:lzhlcOFmfh:kik",
    "tus:lchakwko:kthakwko:kajhakwko:lchakfkwko:kthakfkwko:kajhakfkwko:lcOPEN-HEADEDh:ktOPEN-HEADE",
    "Dh:kajOPEN-HEADEDh:qgALL:COMPLEMENT:PARTIALzn:THERE EXISTS;DOESoaEXIST:EMPTY SET:INCREMENT:NA",
    "BLA:ycOF:oaANycOF:cycOF:CONTAINS AS MEMBER:DOESoaCONTAIN AS MEMBER:cCONTAINS AS MEMBER:END OF",
    " PROOF:N-ARYxa;COPRODUCT;SUMMATION:unf:MINUS-OR-PLUSf:khkv:DIVISIONvp:SETun:pgpo:mapo:wepo:ll",
    "ROOT:CUBE ROOT:FOURTH ROOT:PROPORTIONAL TO:INFINITY:jor:or:MEASUREDor:SPHERICALor:DIVIDES:DOE",
    "SoaDIVIDE:PARALLEL TO:oaPARALLEL TO:wvg;OR:ux:vb:tz:kftz:pftz:CONTOURtz:SURFACEtz:VOLUMEtz:wr",
    "tz;CONTOURtz:ueCONTOURtz:THEREFORE:BECAUSE:RATIO:PROPORTION:khun:EXCESS:GEOMETRIC PROPORTION:",
    "HOMOTHETIC:lypo:myly:nmLAZY S:SINE WAVE:WREATHxa:oaly:unly:ASYMPTOTICALLYltTO:oaASYMPTOTICALL",
    "YltTO:ztltTO;BUToaACTUALLYltTO:NEITHERztNOR ACTUALLYltTO:vcltTO:oavcltTO:vcltORltTO:pfly:ALLl",
    "tTO:vvTO:GEOMETRICALLYvvTO:DIFFERENCEut:APPROACHES THE LIMIT:GEOMETRICALLYltTO:ztltTO OR THE ",
    "IMAGE OF:IMAGE OF ORztltTO:rbqr:qrrb:maINltTO;ltTO:CORRESPONDS TO:ESTIMATES:EQUIANGULAR TO:oe",
    "qr:tsltTO:ltTO BY DEFINITION:MEASURED BY:QUESTIONEDltTO:oaltTO:IDENTICAL TO:oaIDENTICAL TO:ST",
    "RICTLYvvTO:nzORltTO:obORltTO:nzloltTO:obloltTO:nzBUToaltTO:obBUToaltTO:MUCHnz;ob:ut:oavvTO;nz",
    ";ob:NEITHERnzNORltTO;obNORltTO:nzORvvTO:obORvvTO:NEITHERnzNORvvTO;obNORvvTO:nzORob:obORnz:NEI",
    "THERnzNORob;obNORnz:wz:xf:wzORltTO:xfORltTO:wzORvvTO:xfORvvTO:DOESoaPRECEDE<SUCCEED:soOF:szOF",
    ":oaAsoOF<szOF:soOF ORltTO:szOF ORltTO:NEITHER AsoOF NORltTO<szOF NORltTO:soOFaoaltTO:szOFaoal",
    "tTO:MULTISET;xw;vb:llIMAGE OF;ORIG",
    "INAL OF;IMAGE OF ORltTO;ORIG",
    "INAL OF ORltTO;CAP;CUP:ookv;un;",
    "ky;DIVISIONvp;khpo;mapo;pgpo;qr;ps:qokv;un;ky;khpo:jqw:kaqw:ldqw:UPqw:ASSERTION:MODELS:TRUE:F",
    "ORCES:pfkwlbjzg:kfkwlbkfjzg:DOESoaPROVE:oaTRUE:DOESoaFORCE:NEGATEDkfkwlbkfjzg:wzUNDER RELATIO",
    "N:xfUNDER RELATION:NORMAL SUBGROUP OF:CONTAINS AS NORMAL SUBGROUP:NORMAL SUBGROUP OF ORltTO:C",
    "ONTAINS AS NORMAL SUBGROUP ORltTO:ORIG",
    "INAL OF:IMAGE OF:MULTIMAP:HERMITIAN CONJUGATE MATRIX:IN",
    "TERCALATE:XOR:NAND:NOR:joraARC;mb:N-ARYwvg<OR;ux;vb:qdpo:khpo:oepo:DIVISIONky:BOWTIE:kaNORMAL",
    " FACTOR SEMIDIRECTxa:jNORMAL FACTOR SEMIDIRECTxa:kaSEMIDIRECTxa:jSEMIDIRECTxa:mylyqr:siwvOR<g",
    ":kfso;sz;ux;vb:PITCHFORK:ltgPARALLEL TO:nzakh:obakh:sdMUCHnz<ob:nzltTO ORob:obltTO ORnz:ltTO ",
    "ORnz=ob=wz=xf:DOESoaPRECEDE ORlt<SUCCEED ORlt:oallIMAGE OF ORltTO<ORIG",
    "INAL OF ORltTO:llIMAGE ",
    "OF ORoaltTO;ORIG",
    "INAL OF ORoaltTO:nzBUToavvTO:obBUToavvTO:wzBUToavvTO:xfBUToavvTO:oaNORMAL SUB",
    "GROUP OF:DOESoaCONTAIN AS NORMAL SUBGROUP:oaNORMAL SUBGROUP OF ORltTO:DOESoaCONTAIN AS NORMAL",
    " SUBGROUP ORlt:kwELLIPSIS:MIDLINElvELLIPSIS:UPjpkELLIPSIS:ldjpkELLIPSIS:ycOFamolvko=kwlbAT EN",
    "D OFlvko:cycOFakwlbAT END OFlvko:ycOFakhi=wy:cycOFawy:ycOFasr=kblvSTROKES:CONTAINSamolvko<kwl",
    "bAT END OFlvko:cCONTAINSakwlbAT END OFlvko:CONTAINSawy:cCONTAINSawy:Z NOTATION BAG MEMBERSHIP",
    ":DIAMETERf:ELECTRICh:HOUSE:UPnf:ldnf:PROJECTIVE:PERSPECTIVE:WAVYmw:kaCEILING:jCEILING:kaFLOOR",
    ":jFLOOR:qzjCROP;kaCROP:pwjCROP;kaCROP:myoaf:llww:ARC:SEGMENT:SECTOR:xrRECORDER:POSITIONyz:VIE",
    "WDATAll:PLACE OF INTERESTf:mqoaf:WATCH:HOURGLASS:pwkarc;jrc:qzkarc;jrc:pwlftz:qzlftz:FROWN:SM",
    "ILE:UPnfutkblvBARS:OPTION KEY:ERASE TO THEj:X IN A RECTANGLE BOX:KEYBOARD:ttorlj:suorlj:ERASE",
    " TO THEka:BENZENEma:CYLINDRICITY:ALL AROUND-PROFILE:SYMMETRY:TOTAL RUNOUT:DIMENSION ORIGIN:CO",
    "NICAL TAPER:SLOPE:COUNTERBORE:COUNTERSINK:APL FUNCTIONALkpI-BEAM=SQUISH QUAD=QUADlt>DIVIDE>qd",
    ">JOT>ln=lnSTILE>JOT=vplb=BACKSLASHlb=QUADvp>BACKSLASH>nz>ob=lcVANE=ktVANE=QUADlch>kth=lnBACKS",
    "LASH=ldqwsr=tsSTILE=QUADldCARET>ts=ldqwJOT=mfVANE=QUADmfh=UPqwwy=DEL STILE=QUAD UP CARET>DEL=",
    "UPqwJOT=lzVANE=QUADlzh=QUOTEsr=tssr=qdsr=JOTsr=lnsr=UP SHOE JOT=QUOTE QUAD=lnoe=QUADrb=UPqwmz",
    "=DELmz=oemz=JOTmz=lnmz=ldSHOE STILE=kaSHOE STILE=lymz=obmz=nvlb=DELly=ZILDE=STILEly=xpsr=QUAD",
    "oalt>rw=ldCARETly=UP CARETly=rd=RHO=qi=qtsr=sjsr=rdsr=qisr=qt:oaCHECKkg:joralzZIGZAGh:SHOULDE",
    "REDmpBOX:BELLkp:kwmwakskh:INSERTIONkp:CONTINUOUS UNDERLINEkp:DISCONTINUOUS UNDERLINEkp:EMPHAS",
    "ISkp:COMPOSITIONkp:klllanskwmw:ENTERkp:ALTERNATIVE KEYkp:HELMkp:oolvlbaNOTCH;mbld:BROKENlnaNO",
    "RTHWESTh:UNDOkp:MONOSTABLEkp:HYSTERESISkp:OPEN-CIRCUIT-OUTPUT H-TYPEkp;L-TYPEkp:PASSIVE-PULL-",
    "DOWN-OUTPUTkp:PASSIVE-PULL-UP-OUTPUTkp:DIRECT CURRENTkpdkb:SOFTWARE-FUNCTIONkp:APL FUNCTIONAL",
    "kpQUAD:DECIMALrgKEYkp:PREVIOUS PAGE:NEXT PAGE:PRINT SCREENkp:CLEAR SCREENkp:kaptmjkn<yx<lxkn:",
    "jptmjkn<yx<lxkn:kallljmjrc=yx=lxrc:jllljmjrc=yx=lxrc:kasiljmjkn=ksPIECE=lxkn:siljyx:jsiljmjkn",
    "=ksPIECE=lxkn:tzyx:lvmwyx:mjkaORlxjsiljsv;jORlxkasiljsv:SUMMATIONpw;qz:pwlllj:qzlllj=lopwlllj",
    ":RADICALkpqz:kakwBOXmw:jkwBOXmw:lvSCAN LINE-1<LINE-3<LINE-7<LINE-9:DENTISTRYkplwkwgpwj?qzj>al",
    "n=ldglvaln=UPglvaln=kwamb=ldglvamb=UPglvamb=kwgWAVE=ldglvaWAVE=UPglvaWAVE=ldglv=UPglv=kwgpwka",
    "?qzka:llFOOT:RETURNkp:EJECTkp:kwmwyx:METRICALoh;moloou;oulomo;molokbSHORTS;kbSHORTSlomo=JOINE",
    "D;TRISEME;TETRASEME;PENTASEME:EARTH GROUND:FUSE:pwpt:qzpt:pwsilj:qzsilj:pwuqswlj:qzuqswlj:klT",
    "RAPEZIUM:BENZENEmaaln:STRAIGHTNESS:FLATNESS:AC CURRENT:ELECTRICALux:DECIMAL EXPONENTkp:kjsukf",
    "mb;ttkfmb;wpkfmb;xikfmb;sukfmbakwlb;ttkfmbakwlb;sumbakfkwlb:ALARM CLOCK:STOPWATCH:TIMER CLOCK",
    ":HOURGLASSaFLOWING SAND:kjmhttmb<sumb<wpmb<ximb:kfkwlb:kjllqgnd;lnqgRECORD:POWERkp;ON-OFFkp;O",
    "Nkp;SLEEPkp:OBSERVER EYEkp:kpqgNULL<START OF HEADING>TEXT<END OF TEXT>TRANSMISSION<ENQUIRY<AC",
    "KNOWLEDGE<BELL<BACKSPACE<lvxq<mwFEED<kwxq<dFEED<CARRIAGE RETURN<SHIFT OUT=IN<DATA LINK ESCAPE",
    "<DEVICE CONTROLkd>kb>ki>km<vlACKNOWLEDGE<SYNCHRONOUS IDLE<END OF TRANSMISSIONny<CANCEL<END OF",
    "mh<SUBSTITUTE<ESCAPE<FILErg<GROUPrg<RECORDrg<UNITrg<tm<DELETE:BLANKkp:mpBOX:kpqgNEWLINE<DELET",
    "Edkb<SUBSTITUTEdkb"]),
  (0x2440, [":OCRkn;CHAIR;FORK;nmFORK;BELT BUCKLE;BOW TIE;BRANCH BANK IDENTIFICATION;AMOUNT OF CHE",
    "CK;ps;CUSTOMER ACCOUNTnp;kfBACKSLASH"]),
  (0x2460, [":oolukd<kb<ki<km<kq<kz<le<la<li;npmr<ELEVEN<wo<THIRTEEN<FOURTEEN<xu<SIXTEEN<zd<ym<NIN",
    "ETEEN<pz:zxlukd<kb<ki<km<kq<kz<le<la<li;npmr<ELEVEN<wo<THIRTEEN<FOURTEEN<xu<SIXTEEN<zd<ym<NIN",
    "ETEEN<pz:lukdovnd;kbovnd;kiovnd;kmovnd;kqovnd;kzovnd;leovnd;laovnd;liovnd:npmrovnd;ELEVENovnd",
    ";woovnd;THIRTEENovnd;FOURTEENovnd;xuovnd;SIXTEENovnd;zdovnd;ymovnd;NINETEENovnd;pzovnd:zxogcb",
    "A>B>C>D>E>F>G>H>I>J>K>L>M>N>O>P>Q>R>S>T>U>V>W>X>Y>Z:ooogebA>B>C>D>E>F>G>H>I>J>K>L>M>N>O>P>Q>R",
    ">S>T>U>V>W>X>Y>Z<cbA>B>C>D>E>F>G>H>I>J>K>L>M>N>O>P>Q>R>S>T>U>V>W>X>Y>Z;lumk:vloonpELEVEN=wo=T",
    "HIRTEEN=FOURTEEN=xu=SIXTEEN=zd=ym=NINETEEN=pz:kfoolukd=kb=ki=km=kq=kz=le=la=li<npmr:vloolumk:",
    "BOX DRAWINGSlwlv<kulv<lwkw<kukw<lwpfpslv<kupfpslv<lwpfpskw<kupfpskw<lwxxpslv<kuxxpslv<lwxxpsk",
    "w<kuxxpskw<lwldgj<ldlwgjku=kugjlw<kuldgj<lwldgka<ldlwgkaku=kugkalw<kuldgka<lwUPgj<UPlwgjku=ku",
    "gjlw<kuUPgj<lwUPgka<UPlwgkaku=kugkalw<kuUPgka<lwkwgj<kwlwgjku<UPkugjldlw<ldkugjUPlw<kwkugjlw<",
    "ldlwgjUPku<UPlwgjldku<kukwgj<lwkwgka<kwlwgkaku<UPkugkaldlw<ldkugkaUPlw<kwkugkalw<ldlwgkaUPku<",
    "UPlwgkaldku<kukwgka<lwldglv<kakugjldlw<jkugkaldlw<ldlwglvku=kuglvlw<jlwgkaldku<kalwgjldku<kul",
    "dglv<lwUPglv<kakugjUPlw<jkugkaUPlw<UPlwglvku=kuglvlw<jlwgkaUPku<kalwgjUPku<kuUPglv<lwkwglv<ka",
    "kugjkwlw<jkugkakwlw<kwlwglvku<UPkugldlvlw<ldkugUPlvlw<kwkuglvlw<kaUPkugjldlw<jUPkugkaldlw<kal",
    "dkugjUPlw<jldkugkaUPlw<ldlwgUPlvku<UPlwgldlvku<jlwgkakwku<kalwgjkwku<kukwglv<lwkfpslv<kukfpsl",
    "v<lwkfpskw<kukfpskw<kflv=kw<ldncgjkf=kfgjnc<kfldgj<ldncgkakf=kfgkanc<kfldgka<UPncgjkf=kfgjnc<",
    "kfUPgj<UPncgkakf=kfgkanc<kfUPgka<kwncgjkf=kfgjnc<kfkwgj<kwncgkakf=kfgkanc<kfkwgka<ldncglvkf=k",
    "fglvnc<kfldglv<UPncglvkf=kfglvnc<kfUPglv<kwncglvkf=kfglvnc<kfkwglv<lwARCldgj?gka>UPgka?gj=pkm",
    "jjTOlxka?kaTOlxj>ph=ka=UP=j=ld<kuka=UP=j=ld<lwkagkuj=UPgkuld<kukaglwj=UPglwld:mjlfny:lxkdsfny",
    "<qyny;kivtny;lfny;kqvtny;kiwcny;levtny:ovny:kalevtny;kiwcny;kqvtny;lfny;kivtny;kdqyny<sfny:jl",
    "fny:lwSHADE:mhSHADE:DARK SHADE:mjkdsfny:jkdsfny:wblxka<j;mjka=glxkaglxj?j>mjjglxka?jglxj<j=gl",
    "xka?kaglxj:kjll:klll<aROUNDED CORNERS<zikjcll:llalvFILL<kwFILL<ORTHOGONAL CROSSHATCH FILL<mjk",
    "aTOlxjFILL=jTOlxkaFILL<pkCROSSHATCH FILL:kjcll:klcll:kjRECTANGLE:klRECTANGLE:kjkwRECTANGLE:kl",
    "kwRECTANGLE:kjPARALLELOGRAM:klPARALLELOGRAM:kjwpmb:klwpmb:kjwpcmb:klwpcmb:kjsumb:klsumb:kjsuc",
    "mb:klsucmb:kjsuPOINTER:klsuPOINTER:kjximb:klximb:kjxicmb:klxicmb:kjttmb:klttmb:kjttcmb:klttcm",
    "b:kjttPOINTER:klttPOINTER:kjqd:klqd<zikjcqd:FISHEYE:ww:klln:qeln:lnakwFILL:BULLSEYE:kjln:lnak",
    "alfkj<jlfkj<lxlfkj<mjlfkj=jwbkj<ALL BUTmjkawbkj:kalfkjln:jlfkjln:ydwe;klln:mjlfydklln:lxlfydk",
    "lln:mjkawbCIRCULAR ARC;jwbCIRCULAR ARC:lxjwbCIRCULAR ARC;kawbCIRCULAR ARC:mjlfln:lxlfln:kjlxj",
    "mb<kamb;mjkamb<jmb:klwe:llakalfkj<jlfkj<mjkapklfkj<lxjpklfkj:klllakwBISECTINGmw;wpmbakh:wpmba",
    "kalfkj=jlfkj:nhln:klllamjkawb=lxkawb>jwb=mjjwb;lnamjkawb=lxkawb>jwb=mjjwb:mjkamb;jmb:lxkamb:k",
    "lmhll:kjmhll:klmhcll:kjmhcll:lxjmb:kjSUNaRAYS:CLOUD:UMBRELLA:SNOWMAN:COMET:kjoe:kloe:LIGHTNIN",
    "G:THUNDERSTORM:SUN:ASCENDING NODE:DESCENDING NODE:CONJUNCTION:OPPOSITION:kjxr:klxr:BALLOT BOX",
    "<aCHECK=X:xy:UMBRELLAaRAIN DROPS:HOT BEVERAGE:klSHOGI PIECE:kjSHOGI PIECE:SHAMROCK:mynrFLORAL",
    "rtwe:kjkanglr;jnglr:klkanglr;UPnglr;jnglr;ldnglr:SKULLgCROSSBONES:CAUTIONf:RADIOACTIVEf:BIOHA",
    "ZARDf:CADUCEUS:ANKH:ORTHODOXph:CHI RHO:phOF LORRAINE<JERUSALEM:oegCRESCENT:FARSIkp:ADI SHAKTI",
    ":HAMMERgSICKLE:PEACEkp:YIN YANG:TRIGRAMqgHEAVEN<LAKE<FIRE<THUNDER<WIND<WATER<MOUNTAIN<EARTH:W",
    "HEEL OF DHARMA:klFROWNINGlk;uzlk:kjuzlk:klSUNaRAYS:FIRSTqysl:LASTqysl:MERCURY:FEMALEf:EARTH:M",
    "ALEf:JUPITER:SATURN:URANUS:NEPTUNE:PLUTO:ARIES:TAURUS:GEMINI:CANCER:LEO:VIRGO:LIBRA:SCORPIUS:",
    "SAGITTARIUS:CAPRICORN:AQUARIUS:PISCES:klraKING<vn<ROOK<BISHOP<sb<PAWN:kjraKING<vn<ROOK<BISHOP",
    "<sb<PAWN;SPADE SUIT:klrtSUIT;qdSUIT:kjCLUB SUIT:klSPADE SUIT:kjrtSUIT;qdSUIT:klCLUB SUIT:HOT ",
    "SPRINGS:qyNOTE:sfNOTE:BEAMEDsfNOTES;SIXTEENTH NOTES:MUSIC FLATf;NATURALf;SHARPf:oqSYRIACph:nq",
    "SYRIACph:UNIVERSAL RECYCLINGkp:RECYCLINGkpqgTYPE-1 PLASTICS=TYPE-2 PLASTICS=TYPE-3 PLASTICS=T",
    "YPE-4 PLASTICS=TYPE-5 PLASTICS=TYPE-6 PLASTICS=TYPE-7 PLASTICS=GENERIC MATERIALS:kjUNIVERSAL ",
    "RECYCLINGkp:RECYCLED PAPERkp:PARTIALLY-RECYCLED PAPERkp:PERMANENT PAPERf:WHEELCHAIRkp:DIE FAC",
    "E-1@@@@@:kllnakhj=kblm:kjlnaklkhj=kbkllm:MONOGRAMqgYANG<YIN:DIGRAMqgGREATER YANG<LESSER YIN=Y",
    "ANG<GREATER YIN:klFLAG:kjFLAG:HAMMERgPICK:ANCHOR:wsSWORDS:STAFF OF AESCULAPIUS:SCALES:ALEMBIC",
    ":FLOWER:GEAR:STAFF OF HERMES:ATOMkp:FLEUR-DE-LIS:OUTLINEDkloe:kiLINES CONVERGINGj=ka:WARNINGf",
    ":mvVOLTAGEf:DOUBLED FEMALEf;MALEf:INTERLOCKED FEMALEgMALEf:MALEgFEMALEf;akof=gMALEgFEMALEf:kw",
    "MALEakof:lvMALEakof:mhklln;kjln;cklln:MARRIAGEkp:DIVORCEkp:UNMARRIED PARTNERSHIPkp:COFFIN:FUN",
    "ERAL URN:NEUTER:CERES:PALLAS:JUNO:VESTA:CHIRON:kjslLILITH:SEXTILE:SEMISEXTILE:QUINCUNX:SESQUI",
    "QUADRATE:SOCCER BALL:BASEBALL:qoKEY:klDRAUGHTS MAN<KING:kjDRAUGHTS MAN<KING:SNOWMAN WITHOUT S",
    "NOW:SUN BEHIND CLOUD:RAIN:kjSNOWMAN:THUNDER CLOUDgRAIN:mqklSHOGI PIECE;kjSHOGI PIECE:klqdINll",
    ":riLANES:DISABLED CAR:OPHIUCHUS:PICK:CAR SLIDING:HELMETaklph:ooriLANES:CHAINS:NO ENTRY:taONE-",
    "WAYkaWAY TRAFFIC:kjTWO-WAYkaWAY TRAFFIC:klTWO-WAYkaWAY TRAFFIC:kjkaLANE MERGE:klkaLANE MERGE:",
    "DRIVE SLOWf:kuklximb:kaqqENTRY:qoxy:FALLINGpkINkllnINkjll:kjTRUCK:RESTRICTEDkaENTRY-1@:ASTRON",
    "OMICALkpqgURANUS:kulnakogkblmi:PENTAGRAM:RIGHT-HANDED INTERLACED PENTAGRAM:LEFT-HANDED INTERL",
    "ACED PENTAGRAM:nmPENTAGRAM:kjphON SHIELD:SHINTO SHRINE:CHURCH:CASTLE:HISTORIC SITE:GEAR WITHO",
    "UT HUB;aHANDLES:MAPkpqgLIGHTHOUSE:MOUNTAIN:UMBRELLA ON GROUND:FOUNTAIN:FLAG IN HOLE:FERRY:SAI",
    "LBOAT:llkmCORNERS:SKIER:ICE SKATE:vmaBALL:TENT:JAPANESE BANKkp:HEADSTONE GRAVEYARDkp:FUEL PUM",
    "P:CUP ONkjll:klFLAGalvkskjSTRIPE:kjSAFETY SCISSORS:mjBLADE SCISSORS:kjSCISSORS:lxBLADE SCISSO",
    "RS:klSCISSORS;kuCHECKkg:xrLOCATIONf:TAPE DRIVE:AIRPLANE:yn:smFIST;rk:VICTORYrk:WRITINGrk:lxjP",
    "ENCIL:PENCIL:mjjPENCIL:klNIB:kjNIB:CHECKkg:kuCHECKkg:xwX:kuxwX:BALLOT X:kuBALLOT X:OUTLINEDpl",
    "ph:kuplph:mpnsph:kumpnsph:ogph:xcklogph:OUTLINEDogph:MALTESEph:oeOF DAVID:kmzlpg;BALLOON-SPOK",
    "EDpg:kukmBALLOON-SPOKEDpg:kmCLUB-SPOKEDpg:kjkmqsoe:klkmqsoe:SPARKLES:STRESS OUTLINEDkloe:ookl",
    "oe:mpnskjoe:kjnskloe:OUTLINEDkjoe:kuOUTLINEDkjoe:ypoe:xckloe:kupg:mpnspg:lauppg;qskjoe<ypoe:k",
    "zqskjoe:laqsRECTILINEARkjoe:kulaqsRECTILINEARkjoe:woqskjoe:SIXTEENqspg:zlpg:mpnszlpg:kuzlpg:k",
    "zPETALLEDkjgklFLORETTE:kjFLORETTE:klFLORETTE:laPETALLED OUTLINEDkjFLORETTE:oompnslaqsoe:kuzly",
    "ppg:SNOWFLAKE:TIGHT TRIFOLIATE SNOWFLAKE:kuCHEVRON SNOWFLAKE:SPARKLE:kuSPARKLE:BALLOON-SPOKED",
    "pg:lazlPROPELLERpg:kulazlPROPELLERpg:phkg:xcklln:vlqophkg:lxjDROP-SHADOWEDklll:mjjDROP-SHADOW",
    "EDklll:lxjxcklll:mjjxcklll:kjrwkgot:klrwkgot;skkgot:kjqdunklX:kuskkgkp:lwkwlb:mhkwlb:kukwlb;n",
    "cmqnvrqkgot<nvrqkgot;kfmqnvrqkgot<nvrqkgot;mcncnvrqkgot<kfnvrqkgot:CURVED STEM PARAGRAPHfot:k",
    "uskkgot;rtskkgot;kjrt:nrkukjrtwe:FLORALrt:nrFLORALrtwe:mhkaptot;jptot;FLATTENEDkaptot<jptot;t",
    "torljot;suorljot:kuttorrqkgot;suorrqkgot;ttorljot;suorljot:lwkauqswljot;juqswljot:mhkasiljot;",
    "jsiljot:DINGBATvloolukd>kb>ki>km>kq>kz>le>la>li=npmr;ootglukd>kb>ki>km>kq>kz>le>la>li=npmr;vl",
    "ootglukd?kb?ki?km?kq?kz?le?la?li>npmr:kuWIDE-HEADEDkth;kvf;unf;DIVISIONf;prnqh;kth;pbnqh:DRAF",
    "TING POINTkth:kuROUND-TIPPEDkth:nekth:kunekth:wtnekth:kuwtnekth:kjkth:THREE-D TOP-LIGHTEDktnf",
    ";BOTTOM-LIGHTEDktnf:kjktnf:kukjCURVEDlzgkth=mfgkth:SQUATkjkth:kuCONCAVE-POINTEDkjkth:RIGHT-SH",
    "ADEDklkth:LEFT-SHADEDklkth:BACK-TILTEDxcklkth:FRONT-TILTEDxcklkth:kulxRIGHT-SHADOWEDklkth;mjR",
    "IGHT-SHADOWEDklkth:NOTCHEDlxRIGHT-SHADOWEDklkth:siLOOP:NOTCHEDmjRIGHT-SHADOWEDklkth:ookuklkth",
    ":WHITE-FEATHEREDkth:BLACK-FEATHEREDprnqh;kth;pbnqh:kuBLACK-FEATHEREDprnqh<kth<pbnqh:TEARDROP-",
    "BARBEDkth:kuTEARDROP-SHANKEDkth:WEDGE-TAILEDkth:kuWEDGE-TAILEDkth:OPEN-OUTLINEDkth:kfsiLOOP:k",
    "iDIMENSIONALor:klmbzicklmb:PERPENDICULAR:mpso;sz:kaS-SHAPED BAG DELIMITER:jS-SHAPED BAG DELIM",
    "ITER:ORakhty:tfsxPRECEDINGso:szPRECEDINGsx:kwlbalvko:ocxbpk:moDIVISION:ocFALLINGpk:qowvg<OR:k",
    "lqdaCENTREDkh:gakh:ycOF OPENINGmf:lxjrcakh:mjkarcakh:kaOUTER JOIN:jOUTER JOIN:ovOUTER JOIN:nh",
    "UPqw;ldqw:kagjkfzg=qw;MULTIMAP:mojqw;kaqw:UPqwalni:wwDIVIDED BYlvRULE:klCONCAVE-SIDEDqd=alcTI",
    "CK>ktTICK;llalcTICK=ktTICK:ockakllllj;jkllllj;kaorlj;jorlj;kakforlj;jkforlj;kakluqswlj;jkluqs",
    "wlj;kaFLATTENEDpt;jFLATTENEDpt:mfxxh:lzxxh:ueGAPPEDlnh:wrGAPPEDlnh:jhaookv:molch;kth;kajh;lck",
    "fh;ktkfh;kajkfh;lchrjlb;kthrjlb;lckfhrjlb;ktkfhrjlb<SQUIGGLEh:BRAILLE PATTERN BLANK<DOTS-1@<D",
    "OTS-12<DOTS-3<DOTS-13<DOTS-23<DOTS-123<DOTS-4<DOTS-14<DOTS-24<DOTS-124<DOTS-34<DOTS-134<DOTS-",
    "234<DOTS-1234<DOTS-5<DOTS-15<DOTS-25<DOTS-125<DOTS-35<DOTS-135<DOTS-235<DOTS-1235<DOTS-45<DOT",
    "S-145<DOTS-245<DOTS-1245<DOTS-345<DOTS-1345<DOTS-2345<DOTS-12345<DOTS-6<DOTS-16<DOTS-26<DOTS-",
    "126<DOTS-36<DOTS-136<DOTS-236<DOTS-1236<DOTS-46<DOTS-146<DOTS-246<DOTS-1246<DOTS-346<DOTS-134",
    "6<DOTS-2346<DOTS-12346<DOTS-56<DOTS-156<DOTS-256<DOTS-1256<DOTS-356<DOTS-1356<DOTS-2356<DOTS-",
    "12356<DOTS-456<DOTS-1456<DOTS-2456<DOTS-12456<DOTS-3456<DOTS-13456<DOTS-23456<DOTS-123456<DOT",
    "S-7<DOTS-17<DOTS-27<DOTS-127<DOTS-37<DOTS-137<DOTS-237<DOTS-1237<DOTS-47<DOTS-147<DOTS-247<DO",
    "TS-1247<DOTS-347<DOTS-1347<DOTS-2347<DOTS-12347<DOTS-57<DOTS-157<DOTS-257<DOTS-1257<DOTS-357<",
    "DOTS-1357<DOTS-2357<DOTS-12357<DOTS-457<DOTS-1457<DOTS-2457<DOTS-12457<DOTS-3457<DOTS-13457<D",
    "OTS-23457<DOTS-123457<DOTS-67<DOTS-167<DOTS-267<DOTS-1267<DOTS-367<DOTS-1367<DOTS-2367<DOTS-1",
    "2367<DOTS-467<DOTS-1467<DOTS-2467<DOTS-12467<DOTS-3467<DOTS-13467<DOTS-23467<DOTS-123467<DOTS",
    "-567<DOTS-1567<DOTS-2567<DOTS-12567<DOTS-3567<DOTS-13567<DOTS-23567<DOTS-123567<DOTS-4567<DOT",
    "S-14567<DOTS-24567<DOTS-124567<DOTS-34567<DOTS-134567<DOTS-234567<DOTS-1234567<DOTS-8<DOTS-18",
    "<DOTS-28<DOTS-128<DOTS-38<DOTS-138<DOTS-238<DOTS-1238<DOTS-48<DOTS-148<DOTS-248<DOTS-1248<DOT",
    "S-348<DOTS-1348<DOTS-2348<DOTS-12348<DOTS-58<DOTS-158<DOTS-258<DOTS-1258<DOTS-358<DOTS-1358<D",
    "OTS-2358<DOTS-12358<DOTS-458<DOTS-1458<DOTS-2458<DOTS-12458<DOTS-3458<DOTS-13458<DOTS-23458<D",
    "OTS-123458<DOTS-68<DOTS-168<DOTS-268<DOTS-1268<DOTS-368<DOTS-1368<DOTS-2368<DOTS-12368<DOTS-4",
    "68<DOTS-1468<DOTS-2468<DOTS-12468<DOTS-3468<DOTS-13468<DOTS-23468<DOTS-123468<DOTS-568<DOTS-1",
    "568<DOTS-2568<DOTS-12568<DOTS-3568<DOTS-13568<DOTS-23568<DOTS-123568<DOTS-4568<DOTS-14568<DOT",
    "S-24568<DOTS-124568<DOTS-34568<DOTS-134568<DOTS-234568<DOTS-1234568<DOTS-78<DOTS-178<DOTS-278",
    "<DOTS-1278<DOTS-378<DOTS-1378<DOTS-2378<DOTS-12378<DOTS-478<DOTS-1478<DOTS-2478<DOTS-12478<DO",
    "TS-3478<DOTS-13478<DOTS-23478<DOTS-123478<DOTS-578<DOTS-1578<DOTS-2578<DOTS-12578<DOTS-3578<D",
    "OTS-13578<DOTS-23578<DOTS-123578<DOTS-4578<DOTS-14578<DOTS-24578<DOTS-124578<DOTS-34578<DOTS-",
    "134578<DOTS-234578<DOTS-1234578<DOTS-678<DOTS-1678<DOTS-2678<DOTS-12678<DOTS-3678<DOTS-13678<",
    "DOTS-23678<DOTS-123678<DOTS-4678<DOTS-14678<DOTS-24678<DOTS-124678<DOTS-34678<DOTS-134678<DOT",
    "S-234678<DOTS-1234678<DOTS-5678<DOTS-15678<DOTS-25678<DOTS-125678<DOTS-35678<DOTS-135678<DOTS",
    "-235678<DOTS-1235678<DOTS-45678<DOTS-145678<DOTS-245678<DOTS-1245678<DOTS-345678<DOTS-1345678",
    "<DOTS-2345678<DOTS-12345678:ktyahakwko>kfkwko:lckfhakwko:ktkfhakwko:kajkfhakwko:ktyahrjlb:lck",
    "fhrjlb:ktkfhrjlb:lzhalvko:mfhalvko;pfh:lzpfh:lckfpsh:ktkfpsh:lcpfpsh:ktpfpsh;yapfpsh;haqeSTEM",
    ":mfhTOlb:lzhTOlb:kthaonakwko?kfkwko;yahaon?akwko?akfkwko:lcARROW-TAIL:ktARROW-TAIL:lckfARROW-",
    "TAIL:ktkfARROW-TAIL:lchTOkjqd:kthTOkjqd:lchrjlbTOkjqd:kthrjlbTOkjqd:pboqgprnqh;nqgproqh;oqhak",
    "n;nqhakn:prnqhakn;oqhakn:pboqhgpbnqh;nqhgprnqh:prnqhgproqh;oqhgpboqh:xbpkriFALLINGpk:FALLINGp",
    "krixbpk:prnqhripbnqh:pbnqhriprnqh:FALLINGpkripbnqh:xbpkriprnqh:pbnqhripboqh;oqhripbnqh:WAVEhn",
    "gDIRECTLYj:hngktTHEN CURVINGmf?lz<lzTHEN CURVINGlc?kt:RIGHT-SIDE ARCwrh:LEFT-SIDE ARCueh:pwAR",
    "Cueh:qzARCueh:pwARCwrhaun<uehakv:lxjSEMICIRCULARwrh;kaSEMICIRCULARueh:ueqqlnh:wrqqlnh:kthioul",
    "ch:lchioukth:oukthilch:kthakvkc:lchakvkc:kthwnX:kajhwncln:mfyahrjcln:kamdUPjmdldoi<ldjmdUPoi:",
    "UPmdjldmdkaoi<kaldmdjoi:kamdUPjmdUPoi:UPmdjldmdjoi:kamdldjmdldoi:UPmdkaldmdkaoi:lcoiamdUP TOl",
    "b:ktoiamdUP TOlb:mfoiamdjTOlb:lzoiamdjTOlb:lcoiamdldTOlb:ktoiamdldTOlb:mfoiamdkaTOlb:lzoiamdk",
    "aTOlb:lcoiamdUPrjlb:ktoiamdUPrjlb:mfoiamdjrjlb:lzoiamdjrjlb:lcoiamdldrjlb:ktoiamdldrjlb:mfoia",
    "mdkarjlb:lzoiamdkarjlb:lcoiamdUPilcoiamdld:mfoiamdkaBESIDEmfoiamdj:ktoiamdUPiktoiamdld:lzoiam",
    "dkaBESIDElzoiamdj:lcoiamdUPiktoiamdUP>ldiktoiamdld:ktoiamdUPilcoiamdUP>ldilcoiamdld:lcoiamdUP",
    "imops>ldkcmops:ktoiamdUPimops>ldkcmops:mfoiamdkaBESIDElzoiamdj:lzoiamdkaBESIDEmfoiamdj:jkfhaR",
    "OUNDED HEAD:qrfikth:lypoikth:lchilypo:kthilypo=vcltTO:nzilch:lchwnnz:obikth:soikth:lchwnso:sz",
    "ilch:kaFISHon:jFISHon:UP FISHon:ldFISHon:pfkwlbDELIMITER:Z NOTATION SPOT<TYPErb:kaklsilj:jkls",
    "ilj:kaklpt:jklpt:Z NOTATIONkaIMAGElj<jIMAGElj<kaBINDINGlj<jBINDINGlj:kallljasr:jllljasr:kalll",
    "jaTICK INpwrc:jllljaTICK INqzrc:kallljaTICK INqzrc:jllljaTICK INpwrc:kaorljakh:jorljakh:kaARC",
    "nzlj:jARCoblj:kfkaARCoblj;jARCnzlj:kakjuqswlj:jkjuqswlj:qeFENCE:kwZIGZAGmw:MEASUREDorOPENINGk",
    "a:jortpall:MEASUREDjorakh:oraSty:mgor:SPHERICALorOPENINGka=UP:mqor:myor:orasr:myorasr:vzorOPE",
    "NING UP=ld:MEASUREDorampARM ENDING INhngUPgj?ENDING INhngUPgka?ENDING INhngldgj?ENDING INhngl",
    "dgka?ENDING INhngjgUP?ENDING INhngkagUP?ENDING INhngjgld?ENDING INhngkagld:myEMPTY SET:EMPTY ",
    "SETawy=clni=jhi=kahi:lnalvlb:ookwlb;PARALLEL;tfsx;PERPENDICULAR:lnDIVIDED BYlvlbgpwlfDIVIDED ",
    "BYkwlb;aSUPERIMPOSED X:ooANTICLOCKWISE-ROTATED DIVISIONf:UPhwnln:ooklwe;we;nz;ob:lnaclnTO THE",
    "j<kblvSTROKES TO THEj:qoxbpkvp;FALLINGpkvp;pg;cln;ll:kbJOINED SQUARES:mbakhi<sr:S INmb:mbaSER",
    "IFS ATqz:jmbikamb:kambBESIDEkwlb:kwlbBESIDEjmb:BOWTIEakalfkj<jlfkj:kjBOWTIE:kyakalfkj<jlfkj:k",
    "lHOURGLASS:kjHOURGLASS:kaWIGGLY FENCE:jWIGGLY FENCE:kakfWIGGLY FENCE:jkfWIGGLY FENCE:INCOMPLE",
    "TE INFINITY:TIEloINFINITY:INFINITY NEGATEDakwlb:DOUBLE-ENDED MULTIMAP:llaCONTOURED OUTLINE:IN",
    "CREASES AS:SHUFFLExa:qrfgtlPARALLEL?alyi:IDENTICAL TOgtlPARALLEL:GLEICH STARK:THERMODYNAMIC:x",
    "imbakalfkj=jlfkj:kjqdaldh;ww:kllnaldh:kjlnaldh:ERROR-BARREDklll;kjll;klqd;kjqd;klln;kjln:RULE",
    "-DELAYED:tfsxpo:sxawy:tfsxalvko:BIGsx;tfsx:kfkv:pfkv:ttCURVEDorlj:suCURVEDorlj:TINY:MINY:N-AR",
    "Yookhpo<kvpo<kypo;vbpoakh>kv;lluxpo<vbpo:kbwvgpo<ORpo:N-ARYkypo:MODULOkbSUM:SUMMATIONatz:xxtz",
    "po:FINITE PARTtz:tzakfko;AVERAGEavp:CIRCULATION FUNCTION:ueINTEGRATION:mwINTEGRATIONaRECTANGU",
    "LAR PATH AROUND POLE=SEMICIRCULAR PATH AROUND POLE<oaINCLUDING THE POLE:tzAROUND A POINTpo:QU",
    "ATERNIONtzpo:tzalchakn<kyf<ux<vb<wy<sr:JOIN:nhkambpo:Z NOTATION SCHEMA COMPOSITION=PIPING=PRO",
    "JECTION:kvfaclni=msqfi=lyi=khkc=lykc=SUBSCRIPTkb=kjmb:unfanvi=khkc=FALLINGlm=xblm:kvfINkalfln",
    "=jlfln:VECTOR ORphxa:xwfakhi=sr:SEMIDIRECTxaaqzqq:SMASHxa:xwfINkalfln=jlfln:ooxwfamsqf:xwfINk",
    "fln:ooDIVISIONf:kvfINmb:unfINmb:xwfINmb:INTERIORxa:RIGHTHAND INTERIORxa:Z NOTATION RELATIONAL",
    " COMPOSITION:AMALGAMATION OR COPRODUCT:uxakh:vbaunf<wy:uxawy<wvg:vbawvOR;iux:uxivb:vbilbiux:u",
    "xilbivb:vbBESIDEgJOINEDavb:uxBESIDEgJOINEDaux:qqvbaSERIFS;uxaSERIFS:kfllux<vb:qqvbaSERIFSgSMA",
    "SHxa:wvgakhi;ORakhi:kfwvg<OR:kbINTERSECTINGwvg=OR:SLOPINGnhOR<g:wvOR OVERLAPPINGwvg;gaksSTEM;",
    "ORaksSTEM;galvps;ORalvps;gakfwy=sr=kfsr:cVEEasr:wvORakfwy>sr:Z NOTATION DOMAIN ANTIRESTRICTIO",
    "N<RANGE ANTIRESTRICTION:qrfakhkc:IDENTICALakhi:pflvlbakfkwko>pfkwko:lypoakhi=xblm:SIMILARunSI",
    "MILAR:CONGRUENTakhi:qrapg:vcltTOamsqf:ztltORltTO:qrfikvf:kvfiqrf:qrfilypo:kfrblt:kbCONSECUTIV",
    "EqrSIGNS:kiCONSECUTIVEqrSIGNS:qrfakblmigkblmkc:vvakmlmi:nzalnty:obalnty:nzarwkgi:obarwkgi:nzO",
    "RtlltTO:obORtlltTO:nzORtlltTOakhty:obORtlltTOakhty:nzORtlltTOakhi:obORtlltTOakhi:nzORtlltTOak",
    "hij:obORtlltTOakhika:nzOR APPROXIMATE:obOR APPROXIMATE:nzgzqoaltTO:obgzqoaltTO:nzgoaAPPROXIMA",
    "TE:obgoaAPPROXIMATE:nzizoltiob:obizoltinz:nziSIMILAR ORlt:obiSIMILAR ORlt:nziSIMILARiob:obiSI",
    "MILARinz:nziobizolt:obinzizolt:nzitlltiobitllt:obitlltinzitllt:tlltTO ORnz>ob>nzakhty>obakhty",
    ":zoltTO ORnz>ob;tlltTO ORnz?ob:SIMILAR ORnz<ob;inziqrf<obiqrf:kfNESTEDnz<ob<nzasr:obOVERLAPPI",
    "NGnz;BESIDEnz:nzqqBYuf:obqqBYuf:nzqqBYufitllt:obqqBYufitllt:SMALLER THAN:LARGER THAN:SMALLER ",
    "THAN ORltTO:LARGER THAN ORltTO:qrfaBUMPYi:wzizqqrf:xfizqqrf:wzizqoaltTO:xfizqoaltTO:wziqrf:xf",
    "iqrf:wzioaltTO:xfioaltTO:wzivcltTO:xfivcltTO:wzioavcltTO:xfioavcltTO:kfwz;xf:soakh:szakh:soak",
    "vfkc:szakvfkc:soaxwfkc:szaxwfkc:soOF ORltTOakhi:szOF ORltTOakhi:soOFiqrf:szOFiqrf:soOFilypo:s",
    "zOFilypo:soOFivcltTO:szOFivcltTO:soOFioaltTO:szOFioaltTO:llkampBOXpo;jmpBOXpo:qqso;sz;soORltT",
    "O;szORltTO:soisz:sziso:soiso:szisz;BESIDEso<gJOINED BYpsaso:ycOF OPENINGlz:PITCHFORKaTEEpw:TR",
    "ANSVERSALux:FORKING:NONFORKING:oukaqw;ldqw;UPqw:PERPENDICULARaS:kwlbpfjzg:kfkwlbkazg:kwlbkfka",
    "zg:kfkwlbkfkazg:mopsrjkaMEMBER OFkfkw:ouldqwawy;UPqwasr=iouldqw:kfldqw;UPqw;kooaf:mykfkooaf:D",
    "OESoaDIVIDEamyNEGATIONvp:kwmwalni>kc:ldqwalnkc:PARALLELalvko<lypo:pfkwlbBINARY RELATION=alvko",
    ";rbpo;NESTEDnz<ob:zotlnzORltTO<obORltTO:pfsxBINARY RELATION:nhpfkwlbpo:kfsxpo:klkwlb:N-ARYklk",
    "wlb:pbnqklh;oqklh:prnqklh;oqklh:kajklh:lckjh:mfkjh:lzkjh:pbnqkjh;oqkjh:prnqkjh;oqkjh:kajkjh:U",
    "Pldkjh:kthaTIPlz>mf:lchaTIPlz>mf:llapwlfkj<qzlfkj<mjjpklfkj<lxkapklfkj:qdakalfkj<jlfkj<pwlfkj",
    "<qzlfkj:qell:kjnhll:klnhll:kjsdcll:klsdcll:kjPENTAGON:klPENTAGON;HEXAGON:kjHEXAGON:lvkjHEXAGO",
    "N:kjnhln;mhqd:klmhqd:kjmhww:klmhww:kjcqd<ww:klcww:kjlvELLIPSE:kllvELLIPSE:kjkwELLIPSE:klkwELL",
    "IPSE:kahacln:kilcus:kahaookv:molcSQUIGGLEh:lcyahakwko>kfkwko=rjlb<pfpsh;haqeSTEM=onakwko?kfkw",
    "ko;yahaon?akwko?akfkwko;hwnX:WAVEhngDIRECTLYka:qrfilch:tflypoilch:lchitfvcltTO:kthwnob=sz:lcx",
    "xh:ktxxh:tflypoikth:kthitfvcltTO:lypoilch:lchivcltTO=tflypo:kthitflypo:lzneZIGZAGh:outlpbh;BA",
    "CKSLANTEDprh:klmhoe:kjcoe:klcoe:kjsuPENTAGON:klsuPENTAGON:kunhln;OVALaOVALty;lnalnty<;ooxy:tl",
    "pbhaHOOKED HEAD:BACKSLANTEDprhaHOOKEDon:tlpbhalvon:BACKSLANTEDprhalvon:rnhnglzTHENpbnq:ournhn",
    "glzTHENpbnq:lcneh:mfneh:ktneh:lzneh:kajneh:UPldneh:pboqneh;nqneh:prnqneh;oqneh:lcnewth:mfnewt",
    "h:ktnewth:lznewth:wrnemplnh:uenemplnh:lcnehTOlb:mfnehTOlb:ktnehTOlb:lznehTOlb"]),
  (0x2B76, [":pboqnehTOlb;nqnehTOlb:prnqnehTOlb;oqnehTOlb:lcnehakflvko:mfnehakflvko:ktnehakflvko:l",
    "znehakflvko:lvTAB KEY:kwTAB KEY:lcnehloktneh:mfnehlcOFlzneh:ktnehlolcneh:lznehlcOFmfneh:lcneP",
    "AIREDus:mfnePAIREDus:ktnePAIREDus:lznePAIREDus:lckjooklh:mfkjooklh:ktkjooklh:lzkjooklh:uenejU",
    "-SHAPEDh<qzU-SHAPEDh<kaU-SHAPEDh<pwU-SHAPEDh:RETURNka;j:NEWLINEka;j:kmrcusCIRCLINGue:ktkjh"]),
  (0x2B97, [":kpqgTYPE A ELECTRONICS:THREE-D TOP-LIGHTEDlcssnf;RIGHT-LIGHTEDmfssnf;TOP-LIGHTEDktss",
    "nf;LEFT-LIGHTEDlzssnf:kjlcssnf;mfssnf;ktssnf;lzssnf:lznehamoTIPlc?TIPkt:mfnehamoTIPlc?TIPkt:l",
    "cnehamoTIPmf:ktnehamoTIPmf:lcnehamoTIPlz:ktnehamoTIPlz:kjCURVEDlzglch>kth<mfglch>kth<lcgmfh<k",
    "tgmfh<lcglzh<ktglzh:RIBBONhldka=j<UPka=j<kaUP<jUP<kald<jld:mfklhrjlbalvlb:UPnfIN A RECTANGLE ",
    "BOX:OVERLAPPINGklSQUARES<gkjSQUARES;kjSQUARES:BALLOT BOXalwX:ooX;roX:kjllCENTRED;qdCENTRED:mq",
    "kjPENTAGON:lvkjOCTAGON:kjOCTAGON;mhwpmbCENTRED<ximbCENTRED<ttmbCENTRED<sumbCENTRED:NEPTUNEdkb",
    ":pwlfkjln:qzlfkjln:lwkmqskjCUSP:nrlwkmqskjCUSP:klkmqsCUSP:nrklkmqsCUSP:llPOSITIONyz:UNCERTAIN",
    "TYf:GROUPkg:PLUTOdkb<ki<km<kq:TRANSPLUTO:PROSERPINA:ASTRAEA:HYGIEA:PHOLUS:NESSUS:klslSELENA:k",
    "jqdONph:TRUElwslARTA:CUPIDO:HADES:ZEUS:KRONOS:APOLLON:ADMETOS:VULCANUS:POSEIDON:kalfkjoe:jlfk",
    "joe:oeakalfkj<jlfkj:lcyahambARROWHEADS:mfyahambARROWHEADS:ktyahambARROWHEADS:lzyahambARROWHEA",
    "DS:ERISdkd<kb:SEDNA:RUSSIAN ASTROLOGICALkpVIGINTILE=NOVILE=QUINTILE=BINOVILE=SENTAGON=TREDECI",
    "LE:qrfaINFINITYkc:UNITEDkp:SEPARATEDkp:DOUBLEDkp:PASSEDkp:myjor:HELLSCHREIBER PAUSEkp"])
]

end MetesBounds.Text.CharName
