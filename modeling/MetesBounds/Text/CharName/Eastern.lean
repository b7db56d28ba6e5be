import MetesBounds.Text.CharName.Block

/-!
# `Text/CharName/Eastern` — the names of the scripts of East and South-East Asia and of some of
Africa
-/

set_option autoImplicit false

namespace MetesBounds.Text.CharName

/-- Names of the scripts of East and South-East Asia and of some of Africa. -/
def eastern : List Block := [
  (0x2C00, [":GLAGOLITICebAZU=BUKY=VEDE=GLAGOLI=DOBRO=YESTU=ZHIVETE=DZELO=ZEMLJA=IZHE=krIZHE=I=DJE",
    "RVI=KAKO=LJUDIJE=MYSLITE=NASHI=ONU=POKOJI=RITSI=SLOVO=TVRIDO=UKU=FRITU=HERU=OTU=PE=SHTA=TSI=C",
    "HRIVI=nb=YERU=YERI=YATI=SPIDERY HA=YU=cYUS?aon=YO=IOTATEDcYUS=BIG YUS=IOTATED BIG YUS=FITA=IZ",
    "HITSA=SHTAPIC=TROKUTASTI A=LATINATE MYSLITE=CAUDATE CHRIVI;cbAZU=BUKY=VEDE=GLAGOLI=DOBRO=YEST",
    "U=ZHIVETE=DZELO=ZEMLJA=IZHE=krIZHE=I=DJERVI=KAKO=LJUDIJE=MYSLITE=NASHI=ONU=POKOJI=RITSI=SLOVO",
    "=TVRIDO=UKU=FRITU=HERU=OTU=PE=SHTA=TSI=CHRIVI=nb=YERU=YERI=YATI=SPIDERY HA=YU=cYUS?aon=YO=IOT",
    "ATEDcYUS=BIG YUS=IOTATED BIG YUS=FITA=IZHITSA=SHTAPIC=TROKUTASTI A=LATINATE MYSLITE=CAUDATE C",
    "HRIVI:ogebLakflb;cbLakflb;ebLaksly=Pako=Raon;cbAako=Tapkko;ebHaqc;cbHaqc;ebKaqc;cbKaqc;ebZaqc",
    ";cbZaqc;ebqt=Makn=mqA>qt;cbVajkn;ebWakn;cbWakn=VaCURL;eblfH;cblfH=TAILLESS PHI=EaNOTCH=mqRaon",
    "=Oamcmaty;bcemqE;SUBSCRIPTcbJ:rebeV:ogebSaSWASHon=ZaSWASHon:shebALFA;cbALFA;ebVIDA;cbVIDA;ebt",
    "i;cbti;ebDALDA;cbDALDA;ebEIE;cbEIE;ebSOU;cbSOU;ebZATA;cbZATA;ebHATE;cbHATE;ebTHETHE;cbTHETHE;",
    "ebIAUDA;cbIAUDA;ebKAPA;cbKAPA;ebLAULA;cbLAULA;ebMI;cbMI;ebNI;cbNI;ebKSI;cbKSI;ebO;cbO;ebPI;cb",
    "PI;ebRO;cbRO;ebSIMA;cbSIMA;ebTAU;cbTAU;ebUA;cbUA;ebFI;cbFI;ebKHI;cbKHI;ebPSI;cbPSI;ebOOU;cbOO",
    "U;ebywls;cbywls;ebodshAIN;cbodshAIN;ebylEIE;cbylEIE;ebywKAPA;cbywKAPA;ebywNI;cbywNI;ebylNI;cb",
    "ylNI;ebodshOOU;cbodshOOU;ebSAMPI;cbSAMPI;ebwsSHEI;cbwsSHEI;ebodshSHEI;cbodshSHEI;ebodshESH;cb",
    "odshESH;ebAKHMIMIC KHEI;cbAKHMIMIC KHEI;ebywHORI;cbywHORI;ebodshHORI;cbodshHORI;ebodshHA;cbod",
    "shHA;ebL-SHAPED HA;cbL-SHAPED HA;ebodshHEI;cbodshHEI;ebodshHAT;cbodshHAT;ebodshGANGIA;cbodshG",
    "ANGIA;ebodshDJA;cbodshDJA;ebodshSHIMA;cbodshSHIMA;ebodNUBIAN SHIMA;cbodNUBIAN SHIMA;ebodNUBIA",
    "N NGI;cbodNUBIAN NGI;ebodNUBIAN NYI;cbodNUBIAN NYI;ebodNUBIAN WAU;cbodNUBIAN WAU;kpKAI<MI RO<",
    "PI RO<STAUROS<TAU RO<KHI RO<SHIMA SIMA;ebylSHEI;cbylSHEI;ebylGANGIA;cbylGANGIA;pjNIi<SPIRITUS",
    " ASPER=LENIS;ebBOHAIRIC KHEI;cbBOHAIRIC KHEI"]),
  (0x2CF9, [":shodNUBIANovnd=DIRECTrwkg=INDIRECTrwkg=VERSE DIVIDER;twkdlf;ovnd;MORPHOLOGICAL DIVID",
    "ER:xvcbAN=BAN=GAN=DON=EN=VIN=ZEN=TAN=IN=KAN=LAS=MAN=NAR=ON=PAR=ZHAR=RAE=SAN=TAR=UN=PHAR=KHAR=",
    "GHAN=QAR=rr=CHIN=CAN=JIL=CIL=CHAR=XAN=JHAN=HAE=HE=HIE=WE=HAR=HOE"]),
  (0x2D27, [":xvcbYN"]),
  (0x2D2D, [":xvcbAEN"]),
  (0x2D30, [":TIFINAGHbYA<YAB<YABH<YAG<YAGHH<BERBER ACADEMY YAJ<YAJ<YAD<YADH<YADD<YADDH<YEY<YAF<YA",
    "K<TUAREG YAK<YAKHH<YAH<BERBER ACADEMY YAH<TUAREG YAH<YAHH<YAA<YAKH<TUAREG YAKH<YAQ<TUAREG YAQ",
    "<YI<YAZH<AHAGGAR YAZH<TUAREG YAZH<YAL<YAM<YAN<TUAREG YAGN=YANG<YAP<YU<YAR<YARR<YAGH<TUAREG YA",
    "GH<AYER YAGH<YAS<YASS<YASH<YAT<YATH<YACH<YATT<YAV<YAW<YAY<YAZ<TAWELLEMET YAZ<YAZZ<YE<YO"]),
  (0x2D6F, [":TIFINAGHrebLABIALIZATIONkg;rgkg"]),
  (0x2D7F, [":TIFINAGHtbJOINER:qmojLOA<MOA<ROA<SOA<SHOA<BOA<TOA<COA<NOA<NYOA<rzOA<ZOA<DOA<DDOA<JOA",
    "<THOA<CHOA<PHOA<POA<GGWA<GGWI<GGWEE<GGWE"]),
  (0x2DA0, [":qmojpy<SSU<SSI<SSAA<SSEE<SSE<SSO"]),
  (0x2DA8, [":qmojCCA<CCU<CCI<CCAA<CCEE<CCE<CCO"]),
  (0x2DB0, [":qmojZZA<ZZU<ZZI<ZZAA<ZZEE<ZZE<ZZO"]),
  (0x2DB8, [":qmojCCHA<CCHU<CCHI<CCHAA<CCHEE<CCHE<CCHO"]),
  (0x2DC0, [":qmojQYA<QYU<QYI<QYAA<QYEE<QYE<QYO"]),
  (0x2DC8, [":qmojKYA<KYU<KYI<KYAA<KYEE<KYE<KYO"]),
  (0x2DD0, [":qmojXYA<XYU<XYI<XYAA<XYEE<XYE<XYO"]),
  (0x2DD8, [":qmojGYA<GYU<GYI<GYAA<GYEE<GYE<GYO"]),
  (0x2DE0, [":pjwfbBE=VE=GHE=DE=ZHE=ZE=KA=EL=EM=EN=O=PE=ER=ES=TE=HA=TSE=CHE=nb=SHCHA=FITA=ES-TE=A=",
    "IE=DJERV=MONOGRAPH UK=YAT=YU=vkA=olYUS=BIG YUS=vkBIG YUS:jorzrMARKER<qezrMARKER:kazrlj:jzrlj:",
    "kaqezrlj:jqezrlj:smINTERPOLATION MARKER;qeINTERPOLATION MARKER:qeTRANSPOSITION MARKER:kaTRANS",
    "POSITIONlj:jTRANSPOSITIONlj:smll:kasmOMISSIONlj:jsmOMISSIONlj:EDITORIAL CORONIS:PARAGRAPHOS:F",
    "ORKED PARAGRAPHOS:myFORKED PARAGRAPHOS:HYPODIASTOLE:qeOBELOS:lzANCORA:mfANCORA:qesuor:kfvzHYP",
    "HEN:nmINTERROBANG:PALM BRANCH:HYPHENamz:lyamai:kamcPARAPHRASElj:jmcPARAPHRASElj:lyakhi=kc:kak",
    "wlbaQUILL:jkwlbaQUILL:pwkalflj;jlflj:qzkalflj;jlflj:kayqUlj:jyqUlj:kakfpt:jkfpt:kblmlokdkhpq:",
    "kdkhlokblmpq:qokmkhpq:kqkhkg:myrwkg:kwly:maPOINT:WORDrgkskh:mqnv:smkh;nv:mqxp:DAGGERakaGUARD<",
    "jGUARD:mqDAGGER:pwlfsvf:TWO-EMps:THREE-EMps:STENOGRAPHICovnd:kwkzlm:WIGGLYkwmw:CAPITULUM:kfHY",
    "PHEN:mynv:kfLOW-REVERSED-9rqkg:psakaUPTURN:kfSUSPENSIONkg:nmmcKAVYKA=aKAVYKAi:mcKAVYKA<akh:kf",
    "STACKEDnv:qesx:pfDAGGER:MEDIEVALnv:PARAGRAPHUSkg:PUNCTUS ELEVATUSkg:CORNISH VERSE DIVIDER:phP",
    "ATTYajCROSSBAR=kaCROSSBAR:TIRONIANfeET:MEDIEVALskkg;rwkg:kallljako:jllljako:kallljakfko:jlllj",
    "akfko:pwlfkapt<jpt:qzlfkapt<jpt:vzHYPHEN"]),
  (0x2E80, [":CJK RADICAL REPEAT<CLIFF<SECONDkd=kb=ki<vm<BOX<TABLE<KNIFEkd=kb<DIVINATION<SEAL<ckd=",
    "kb<LAMEkd=kb=ki=km<SNAKE<THREAD<SNOUTkd=kb<rtkd=kb<rk<RAP"]),
  (0x2E9B, [":CJK RADICAL CHOKE<SUN<sl<DEATH<MOTHER<CIVILIAN<WATERkd=kb<FIRE<PAWkd=kb<SIMPLIFIEDlf",
    "TREE TRUNK<COW<DOG<JADE<BOLT OF CLOTH<EYE<SPIRITkd=kb<BAMBOO<SILK<vrSILK<NETkd=kb=ki=km<MESH<",
    "SHEEP<RAM<EWE<od<BRUSHkd=kb<MEAT<MORTAR<GRASSkd=kb=ki<TIGER<CLOTHES<oqkd=kb<vrSEE<SIMPLIFIEDq",
    "u<qu<vrSPEECH=sw<FOOT<vrCART<SIMPLIFIED WALK<WALKkd=kb<CITY<vrGOLD<mokd=kb<vrmo=GATE<MOUNDkd=",
    "kb<RAIN<BLUE<vrTANNED LEATHER=LEAF=WIND=FLY<EATkd=kb=ki<vrEAT<HEAD<vrHORSE<BONE<GHOST<vrFISH=",
    "BIRD=SALT<SIMPLIFIED WHEAT=YELLOW<vrFROG<J-SIMPLIFIED EVEN<vrEVEN<J-SIMPLIFIED TOOTH<vrTOOTH<",
    "J-SIMPLIFIED DRAGON<vrDRAGON<TURTLE<J-SIMPLIFIED TURTLE<vrTURTLE"]),
  (0x2F00, [":KANGXI RADICALkd<mw<kh<vp<SECOND<kn<kb<LID<MAN<LEGS<ENTER<la<ldBOX<COVER<ICE<TABLE<m",
    "pBOX<KNIFE<POWER<WRAP<SPOON<jmpBOX<HIDING ENCLOSURE<mr<DIVINATION<SEAL<CLIFF<PRIVATE<AGAIN<tr",
    "<ENCLOSURE<EARTH<SCHOLAR<GO=SLOWLY<EVENING<BIG<WOMAN<CHILD<ROOF<INCH<c<LAME<CORPSE<SPROUT<MOU",
    "NTAIN<RIVER<WORK<ONESELF<TURBAN<DRY<ouTHREAD<qeCLIFF<moSTRIDE<kbHANDS<SHOOT<BOW<SNOUT<BRISTLE",
    "<STEP<rt<HALBERD<DOOR<rk<BRANCH<RAP<rf<DIPPER<AXE<ll<oa<SUN<SAY<sl<TREE<LACK<nd<DEATH<WEAPON<",
    "DOoa<COMPARE<FUR<CLAN<STEAM<WATER<FIRE<CLAW<FATHER<kfX<lfTREE TRUNK<SLICE<FANG<COW<DOG<PROFOU",
    "ND<JADE<MELON<TILE<SWEET<LIFE<USE<FIELD<BOLT OF CLOTH<SICKNESS<qeTENT<kl<SKIN<td<EYE<SPEAR<h<",
    "STONE<SPIRIT<TRACK<GRAIN<CAVE<STAND<BAMBOO<RICE<SILK<JAR<NET<SHEEP<FEATHER<od<g<PLOW<EAR<BRUS",
    "H<MEAT<MINISTER<SELF<ARRIVE<MORTAR<TONGUE<OPPOSE<BOAT<STOPPING<COLOR<GRASS<TIGER<INSECT<BLOOD",
    "<WALK ENCLOSURE<CLOTHES<oq<SEE<qu<SPEECH<VALLEY<BEAN<PIG<BADGER<sw<RED<RUN<FOOT<BODY<CART<BIT",
    "TER<MORNING<WALK<CITY<WINE<DISTINGUISH<VILLAGE<GOLD<mo<GATE<MOUND<SLAVE<ouxgBIRD<RAIN<BLUE<WR",
    "ONG<lk<LEATHER<TANNED LEATHER<LEEK<va<LEAF<WIND<FLY<EAT<HEAD<FRAGRANT<HORSE<BONE<TALL<HAIR<FI",
    "GHT<SACRIFICIAL WINE<CAULDRON<GHOST<FISH<BIRD<SALT<DEER<WHEAT<HEMP<YELLOW<MILLET<kj<EMBROIDER",
    "Y<FROG<TRIPOD<DRUM<RAT<NOSE<EVEN<TOOTH<DRAGON<TURTLE<FLUTE"]),
  (0x2FF0, [":vjDESCRIPTIONvekaTOj=iTOkc=kaTOksgj=iTOksgkc=ovSURROUND=SURROUNDrji?kc?ka?mjka?mjj?l",
    "xka=OVERLAID"]),
  (0x3000, [":vjtm;nv;ovnd:DITTOkg:JAPANESE INDUSTRIAL STANDARDkp:vjyekg;CLOSINGkg;npmk:kaorlj:jor",
    "lj:kakforlj:jkforlj:karclj:jrclj:kaklrclj:jklrclj:kakjyolj:jkjyolj:POSTALkg:GETAkg:kauqswlj:j",
    "uqswlj:kaklyolj:jklyolj:kakluqswlj:jkluqswlj:kakllllj:jkllllj:WAVEps:mykfPRIMErqkg:kfPRIMErqk",
    "g:mckfPRIMErqkg:POSTALkglk:HANGZHOU NUMERALkd<kb<ki<km<kq<kz<le<la<li:vjLEVELmukg;xbmukg;DEPA",
    "RTINGmukg;ENTERINGmukg:uknckhmukg;kfkhmukg:WAVYps:kwKANA REPEATkg=aVOICEDvakg=kgmjlf=aVOICEDv",
    "akgmjlf=kglxlf:ooPOSTALkg:vjTELEGRAPHmwFEEDrgkp:HANGZHOU NUMERALmr<pz<tn:kwvjyekg:MASUkg:PART",
    " ALTERNATIONkg:vjVARIATIONyz;lfFILLtm"]),
  (0x3041, [":HIRAGANAbcA<A<cI<I<cU<U<cE<E<cO<O<KA<GA<KI<GI<KU<GU<KE<GE<KO<GO<SA<ZA<SI<ZI<SU<ZU<SE",
    "<ZE<SO<ZO<TA<DA<TI<DI<cTU<TU<DU<TE<DE<TO<DO<NA<NI<NU<NE<NO<HA<BA<PA<HI<BI<PI<HU<BU<PU<HE<BE<P",
    "E<HO<BO<PO<MA<MI<MU<ME<MO<cYA<YA<cYU<YU<cYO<YO<RA<RI<RU<RE<RO<cWA<WA<WI<WE<WO<N<VU<cKA=KE"]),
  (0x3099, [":pjzuVOICEDvakg<SEMI-VOICEDvakg:zuVOICEDvakg;SEMI-VOICEDvakg:HIRAGANAyekg;VOICEDyekg;",
    "ryYORI:zukfHYPHEN:wjbcA<A<cI<I<cU<U<cE<E<cO<O<KA<GA<KI<GI<KU<GU<KE<GE<KO<GO<SA<ZA<SI<ZI<SU<ZU",
    "<SE<ZE<SO<ZO<TA<DA<TI<DI<cTU<TU<DU<TE<DE<TO<DO<NA<NI<NU<NE<NO<HA<BA<PA<HI<BI<PI<HU<BU<PU<HE<B",
    "E<PE<HO<BO<PO<MA<MI<MU<ME<MO<cYA<YA<cYU<YU<cYO<YO<RA<RI<RU<RE<RO<cWA<WA<WI<WE<WO<N<VU<cKA=KE<",
    "VA<VI<VE<VO;kskh:zuPROLONGEDvakg:wjyekg;VOICEDyekg;ryKOTO"]),
  (0x3105, [":BOPOMOFObB<P<M<F<D<T<N<L<G<K<H<J<Q<X<ZH<CH<SH<R<Z<C<S<A<O<E<EH<AI<EI<AU<OU<AN<EN<ANG",
    "<ENG<ER<I<U<IU<V<NG<GN<IH<Oakhi<NN"]),
  (0x3131, [":ukbKIYEOK<SSANGKIYEOK<KIYEOK-SIOS<NIEUN<NIEUN-CIEUC<NIEUN-HIEUH<TIKEUT<SSANGTIKEUT<R",
    "IEUL<RIEUL-KIYEOK<RIEUL-MIEUM<RIEUL-PIEUP<RIEUL-SIOS<RIEUL-THIEUTH<RIEUL-PHIEUPH<RIEUL-HIEUH<",
    "MIEUM<PIEUP<SSANGPIEUP<PIEUP-SIOS<SIOS<SSANGSIOS<IEUNG<CIEUC<SSANGCIEUC<CHIEUCH<KHIEUKH<THIEU",
    "TH<PHIEUPH<HIEUH<A<AE<YA<YAE<EO<E<YEO<YE<O<WA<WAE<OE<YO<U<WEO<WE<WI<YU<EU<YI<I;FILLER;bSSANGN",
    "IEUN<NIEUN-TIKEUT<NIEUN-SIOS<NIEUN-PANSIOS<RIEUL-KIYEOK-SIOS<RIEUL-TIKEUT<RIEUL-PIEUP-SIOS<RI",
    "EUL-PANSIOS<RIEUL-YEORINHIEUH<MIEUM-PIEUP<MIEUM-SIOS<MIEUM-PANSIOS<KAPYEOUNMIEUM<PIEUP-KIYEOK",
    "<PIEUP-TIKEUT<PIEUP-SIOS-KIYEOK<PIEUP-SIOS-TIKEUT<PIEUP-CIEUC<PIEUP-THIEUTH<KAPYEOUNPIEUP<KAP",
    "YEOUNSSANGPIEUP<SIOS-KIYEOK<SIOS-NIEUN<SIOS-TIKEUT<SIOS-PIEUP<SIOS-CIEUC<PANSIOS<SSANGIEUNG<Y",
    "ESIEUNG<YESIEUNG-SIOS<YESIEUNG-PANSIOS<KAPYEOUNPHIEUPH<SSANGHIEUH<YEORINHIEUH<YO-YA<YO-YAE<YO",
    "-I<YU-YEO<YU-YE<YU-I<ARAEA<ARAEAE"]),
  (0x3190, [":vjANNOTATION LINKINGkg<tfkg<kdkg<kbkg<kikg<kmkg<pwkg<kskg<qzkg<FIRSTkg<SECONDkg<THIR",
    "Dkg<FOURTHkg<HEAVENkg<EARTHkg<MANkg:BOPOMOFObBU<ZI<JI<GU<EE<ENN<OO<ONN<IR<ANN<INN<UNN<IM<NGG<",
    "AINN<AUNN<AM<OM<ONG<INNN;kebP=T=K=H;bGH<LH<ZY;kebG;bGW<KW<OE<AH:CJKkoT<WG<XG<BXG<SW<HZZ<HZG<H",
    "P<HZWG<SZWG<HZT<HZZP<HPWG<HZW<HZZZ<N<H<S<P<SP<D<HZ<HG<SZ<SWZ<ST<SG<PD<PZ<TN<SZZ<SWG<HXWG<HZZZ",
    "G<PG<Q"]),
  (0x31F0, [":wjbcKU=SI=SU=TO=NU=HA=HI=HU=HE=HO=MU=RA=RI=RU=RE=RO:zxukKIYEOK<NIEUN<TIKEUT<RIEUL<MI",
    "EUM<PIEUP<SIOS<IEUNG<CIEUC<CHIEUCH<KHIEUKH<THIEUTH<PHIEUPH<HIEUH<KIYEOK A<NIEUN A<TIKEUT A<RI",
    "EUL A<MIEUM A<PIEUP A<SIOS A<IEUNG A<CIEUC A<CHIEUCH A<KHIEUKH A<THIEUTH A<PHIEUPH A<HIEUH A<",
    "CIEUC U;KOREANveOJEON=O HU"]),
  (0x3220, [":zxIDEOGRAPHkd<kb<ki<km<kq<kz<le<la<li<mr<sl<FIRE<WATER<WOOD<METAL<EARTH<SUN<STOCK<HA",
    "VE<SOCIETY<NAME<SPECIAL<FINANCIAL<CONGRATULATION<LABOR<REPRESENT<CALL<STUDY<SUPERVISE<ENTERPR",
    "ISE<RESOURCE<ALLIANCE<FESTIVAL<REST<SELF<REACH:ooIDEOGRAPHrw<KINDERGARTEN<SCHOOL<KOTO;npmrONk",
    "jll<pzONkjll<tnONkjll<uhONkjll<qxONkjll<uyONkjll<qvONkjll<vuONkjll:PARTNERSHIPf:oonppzkd=kb=k",
    "i=km=kq=kz=le=la=li<tn=kd=kb=ki=km=kq;ukKIYEOK<NIEUN<TIKEUT<RIEUL<MIEUM<PIEUP<SIOS<IEUNG<CIEU",
    "C<CHIEUCH<KHIEUKH<THIEUTH<PHIEUPH<HIEUH<KIYEOK A<NIEUN A<TIKEUT A<RIEUL A<MIEUM A<PIEUP A<SIO",
    "S A<IEUNG A<CIEUC A<CHIEUCH A<KHIEUKH A<THIEUTH A<PHIEUPH A<HIEUH A;KOREANveCHAMKO=JUEUI;ukIE",
    "UNG U:KOREAN STANDARDkp:ooIDEOGRAPHkd<kb<ki<km<kq<kz<le<la<li<mr<sl<FIRE<WATER<WOOD<METAL<EAR",
    "TH<SUN<STOCK<HAVE<SOCIETY<NAME<SPECIAL<FINANCIAL<CONGRATULATION<LABOR<SECRET<MALE<FEMALE<SUIT",
    "ABLE<EXCELLENT<PRINT<ATTENTION<ITEM<REST<COPY<CORRECT<mv<ns<mc<ka<j<MEDICINE<RELIGION<STUDY<S",
    "UPERVISE<ENTERPRISE<RESOURCE<ALLIANCE<NIGHT;nptnkz=le=la=li<uh=kd=kb=ki=km=kq=kz=le=la=li<qx:",
    "vjTELEGRAPHkpqgJANUARY>FEBRUARY>MARCH>APRIL>MAY>JUNE>JULY>AUGUST>SEPTEMBER>OCTOBER>NOVEMBER>D",
    "ECEMBER:llHG;ERG;EV:LIMITED LIABILITYf:oowjA<I<U<E<O<KA<KI<KU<KE<KO<SA<SI<SU<SE<SO<TA<TI<TU<T",
    "E<TO<NA<NI<NU<NE<NO<HA<HI<HU<HE<HO<MA<MI<MU<ME<MO<YA<YU<YO<RA<RI<RU<RE<RO<WA<WI<WE<WO:llERA N",
    "AME REIWA;APAATO;ARUHUA;ANPEA;AARU;ININGU;INTI;UON;ESUKUUDO;EEKAA;ONSU;OOMU;KAIRI;KARATTO;KAR",
    "ORII;GARON;GANMA;GIGA;GINII;KYURII;GIRUDAA;KIRO;KIROGURAMU;KIROMEETORU;KIROWATTO;GURAMU;GURAM",
    "UTON;KURUZEIRO;KUROONE;KEESU;KORUNA;KOOPO;SAIKURU;SANTIIMU;SIRINGU;SENTI;SENTO;DAASU;DESI;DOR",
    "U;TON;NANO;NOTTO;HAITU;PAASENTO;PAATU;BAARERU;PIASUTORU;PIKURU;PIKO;BIRU;HUARADDO;HUIITO;BUSS",
    "YERU;HURAN;HEKUTAARU;PESO;PENIHI;HERUTU;PENSU;PEEZI;BEETA;POINTO;BORUTO;HON;PONDO;HOORU;HOON;",
    "MAIKURO;MAIRU;MAHHA;MARUKU;MANSYON;MIKURON;MIRI;MIRIBAARU;MEGA;MEGATON;MEETORU;YAADO;YAARU;YU",
    "AN;RITTORU;RIRA;RUPII;RUUBURU;REMU;RENTOGEN;WATTO:vjTELEGRAPHkpqgHOURmk?kd?kb?ki?km?kq?kz?le?",
    "la?li?mr?ELEVEN?wo?THIRTEEN?FOURTEEN?xu?SIXTEEN?zd?ym?NINETEEN?pz?TWENTY-ONE?TWENTY-TWO?TWENT",
    "Y-THREE?TWENTY-FOUR:llHPA;DA;AU;lb;OV;PC;DM<qo<CUBED;IU;ERA NAME HEISEI=SYOUWA=TAISYOU=MEIZI;",
    "CORPORATION;PA AMPS;NA;MU A;MA;KA;KB;MB;GB;CAL;KCAL;PF;NF;MU F<G;MG;KG;HZ;KHZ;MHZ;GHZ;THZ;MU ",
    "L;ML;DL;KL;FM;NM;MU M;MM;CM;KM;MMqo;CMqo;Mqo;KMqo;MM CUBED;CM CUBED;M CUBED;KM CUBED;MloS>qo;",
    "PA;KPA;MPA;GPA;RAD<loS>qo;PS;NS;MU S;MS;PV;NV;MU V;MV;KV;MV MEGA;PW;NW;MU W;MW;KW;MW MEGA;K O",
    "HM;M OHM;AM;BQ;CC;CD;CloKG;CO;DB;GY;HA;HP;IN;KK;KMe;KT;LM;LN;LOG;LX;MBc;MIL;MOL;PH;PM;PPM;PR;",
    "SR;SV;WB;VloM;AloM:vjTELEGRAPHkpqgDAYkd?kb?ki?km?kq?kz?le?la?li?mr?ELEVEN?wo?THIRTEEN?FOURTEE",
    "N?xu?SIXTEEN?zd?ym?NINETEEN?pz?TWENTY-ONE?TWENTY-TWO?TWENTY-THREE?TWENTY-FOUR?TWENTY-FIVE?TWE",
    "NTY-SIX?TWENTY-SEVEN?TWENTY-EIGHT?TWENTY-NINE?tn?THIRTY-ONE:llGAL"]),
  (0x4DC0, [":HEXAGRAMqgTHE CREATIVE HEAVEN=RECEPTIVE EARTH<DIFFICULTY AT THE BEGINNING<YOUTHFUL F",
    "OLLY<WAITING<CONFLICT<THE ARMY<HOLDING TOGETHER<cTAMING<TREADING<PEACE<STANDSTILL<FELLOWSHIP<",
    "GREAT POSSESSION<MODESTY<ENTHUSIASM<FOLLOWING<WORK ON THE DECAYED<APPROACH<CONTEMPLATION<BITI",
    "NGwn<GRACE<SPLITTING APART<RETURN<INNOCENCE<GREAT TAMING<trCORNERS<GREAT PREPONDERANCE<THE AB",
    "YSMAL WATER=CLINGING FIRE<INFLUENCE<DURATION<RETREAT<GREAT POWER<PROGRESS<DARKENING OF THElw<",
    "THE FAMILY<OPPOSITION<OBSTRUCTION<DELIVERANCE<DECREASE<INCREASE<BREAKTHROUGH<COMING TO MEET<G",
    "ATHERING TOGETHER<PUSHING UPWARD<OPPRESSION<THE WELL<REVOLUTION<THE CAULDRON=AROUSING THUNDER",
    "=KEEPING STILL MOUNTAIN<DEVELOPMENT<THE MARRYING MAIDEN<ABUNDANCE<THE WANDERER=GENTLE WIND=JO",
    "YOUS LAKE<DISPERSION<LIMITATION<INNER TRUTH<cPREPONDERANCE<AFTER COMPLETION<BEFORE COMPLETIO",
    "N"]),
  (0xA000, [":YIojIT<IX<I<IP<IET<IEX<IE<IEP<AT<AX<A<AP<UOX<UO<UOP<OT<OX<O<OP<EX<E<WU<BIT<BIX<BI<BI",
    "P<BIET<BIEX<BIE<BIEP<BAT<BAX<BA<BAP<BUOX<BUO<BUOP<BOT<BOX<BO<BOP<BEX<BE<BEP<BUT<BUX<BU<BUP<BU",
    "RX<BUR<BYT<BYX<BY<BYP<BYRX<BYR<PIT<PIX<PI<PIP<PIEX<PIE<PIEP<PAT<PAX<PA<PAP<PUOX<PUO<PUOP<POT<",
    "POX<PO<POP<PUT<PUX<PU<PUP<PURX<PUR<PYT<PYX<PY<PYP<PYRX<PYR<BBIT<BBIX<BBI<BBIP<BBIET<BBIEX<BBI",
    "E<BBIEP<BBAT<BBAX<BBA<BBAP<BBUOX<BBUO<BBUOP<BBOT<BBOX<BBO<BBOP<BBEX<BBE<BBEP<BBUT<BBUX<BBU<BB",
    "UP<BBURX<BBUR<BBYT<BBYX<BBY<BBYP<NBIT<NBIX<NBI<NBIP<NBIEX<NBIE<NBIEP<NBAT<NBAX<NBA<NBAP<NBOT<",
    "NBOX<NBO<NBOP<NBUT<NBUX<NBU<NBUP<NBURX<NBUR<NBYT<NBYX<NBY<NBYP<NBYRX<NBYR<HMIT<HMIX<HMI<HMIP<",
    "HMIEX<HMIE<HMIEP<HMAT<HMAX<HMA<HMAP<HMUOX<HMUO<HMUOP<HMOT<HMOX<HMO<HMOP<HMUT<HMUX<HMU<HMUP<HM",
    "URX<HMUR<HMYX<HMY<HMYP<HMYRX<HMYR<MIT<MIX<MI<MIP<MIEX<MIE<MIEP<MAT<MAX<MA<MAP<MUOT<MUOX<MUO<M",
    "UOP<MOT<MOX<MO<MOP<MEX<ME<MUT<MUX<MU<MUP<MURX<MUR<MYT<MYX<MY<MYP<FIT<FIX<FI<FIP<FAT<FAX<FA<FA",
    "P<FOX<FO<FOP<FUT<FUX<FU<FUP<FURX<FUR<FYT<FYX<FY<FYP<VIT<VIX<VI<VIP<VIET<VIEX<VIE<VIEP<VAT<VAX",
    "<VA<VAP<VOT<VOX<VO<VOP<VEX<VEP<VUT<VUX<VU<VUP<VURX<VUR<VYT<VYX<VY<VYP<VYRX<VYR<DIT<DIX<DI<DIP",
    "<DIEX<DIE<DIEP<DAT<DAX<DA<DAP<DUOX<DUO<kh<DOX<DO<DOP<DEX<DE<DEP<DUT<DUX<DU<DUP<DURX<DUR<TIT<T",
    "IX<TI<TIP<TIEX<TIE<TIEP<TAT<TAX<TA<TAP<TUOT<TUOX<TUO<TUOP<TOT<TOX<TO<pw<TEX<TE<TEP<TUT<TUX<TU",
    "<TUP<TURX<TUR<DDIT<DDIX<DDI<DDIP<DDIEX<DDIE<DDIEP<DDAT<DDAX<oy<DDAP<DDUOX<DDUO<DDUOP<DDOT<DDO",
    "X<DDO<DDOP<DDEX<DDE<DDEP<DDUT<DDUX<DDU<DDUP<DDURX<DDUR<NDIT<NDIX<NDI<NDIP<NDIEX<NDIE<NDAT<NDA",
    "X<NDA<NDAP<NDOT<NDOX<NDO<NDOP<NDEX<NDE<NDEP<NDUT<NDUX<NDU<NDUP<NDURX<NDUR<HNIT<HNIX<HNI<HNIP<",
    "HNIET<HNIEX<HNIE<HNIEP<HNAT<HNAX<HNA<HNAP<HNUOX<HNUO<HNOT<HNOX<HNOP<HNEX<HNE<HNEP<HNUT<NIT<NI",
    "X<NI<NIP<NIEX<NIE<NIEP<NAX<NA<NAP<NUOX<NUO<NUOP<oa<NOX<NO<NOP<NEX<NE<NEP<NUT<NUX<NU<NUP<NURX<",
    "NUR<HLIT<HLIX<HLI<HLIP<HLIEX<HLIE<HLIEP<HLAT<HLAX<HLA<HLAP<HLUOX<HLUO<HLUOP<HLOX<HLO<HLOP<HLE",
    "X<HLE<HLEP<HLUT<HLUX<HLU<HLUP<HLURX<HLUR<HLYT<HLYX<HLY<HLYP<HLYRX<HLYR<LIT<LIX<LI<LIP<LIET<LI",
    "EX<LIE<LIEP<LAT<LAX<LA<LAP<LUOT<LUOX<LUO<LUOP<LOT<LOX<LO<LOP<LEX<LE<LEP<LUT<LUX<LU<LUP<LURX<L",
    "UR<LYT<LYX<LY<LYP<LYRX<LYR<GIT<GIX<GI<GIP<GIET<GIEX<GIE<GIEP<GAT<GAX<GA<GAP<GUOT<GUOX<GUO<GUO",
    "P<GOT<GOX<GO<GOP<GET<GEX<GE<GEP<GUT<GUX<GU<GUP<GURX<GUR<KIT<KIX<KI<KIP<KIEX<KIE<KIEP<KAT<KAX<",
    "KA<KAP<KUOX<KUO<KUOP<KOT<KOX<KO<KOP<KET<KEX<KE<KEP<KUT<KUX<KU<KUP<KURX<KUR<GGIT<GGIX<GGI<GGIE",
    "X<GGIE<GGIEP<GGAT<GGAX<GGA<GGAP<GGUOT<GGUOX<GGUO<GGUOP<GGOT<GGOX<GGO<GGOP<GGET<GGEX<GGE<GGEP<",
    "GGUT<GGUX<GGU<GGUP<GGURX<GGUR<MGIEX<MGIE<MGAT<MGAX<MGA<MGAP<MGUOX<MGUO<MGUOP<MGOT<MGOX<MGO<MG",
    "OP<MGEX<MGE<MGEP<MGUT<MGUX<MGU<MGUP<MGURX<MGUR<HXIT<HXIX<HXI<HXIP<HXIET<HXIEX<HXIE<HXIEP<HXAT",
    "<HXAX<HXA<HXAP<HXUOT<HXUOX<HXUO<HXUOP<HXOT<HXOX<HXO<HXOP<HXEX<HXE<HXEP<NGIEX<NGIE<NGIEP<NGAT<",
    "NGAX<na<NGAP<NGUOT<NGUOX<NGUO<NGOT<NGOX<NGO<NGOP<NGEX<NGE<NGEP<HIT<HIEX<HIE<HAT<HAX<HA<HAP<HU",
    "OT<HUOX<HUO<HUOP<HOT<HOX<HO<HOP<HEX<HE<HEP<WAT<WAX<WA<WAP<WUOX<WUO<WUOP<WOX<WO<WOP<WEX<WE<WEP",
    "<ZIT<ZIX<ZI<ZIP<ZIEX<ZIE<ZIEP<ZAT<ZAX<ZA<ZAP<ZUOX<ZUO<ZUOP<ZOT<ZOX<ZO<ZOP<ZEX<ZE<ZEP<ZUT<ZUX<",
    "ZU<ZUP<ZURX<ZUR<ZYT<ZYX<ZY<ZYP<ZYRX<ZYR<CIT<CIX<CI<CIP<CIET<CIEX<CIE<CIEP<CAT<CAX<CA<CAP<CUOX",
    "<CUO<CUOP<COT<COX<CO<COP<CEX<CE<CEP<CUT<CUX<CU<CUP<CURX<CUR<CYT<CYX<CY<CYP<CYRX<CYR<ZZIT<ZZIX",
    "<ZZI<ZZIP<ZZIET<ZZIEX<ZZIE<ZZIEP<ZZAT<ZZAX<ZZA<ZZAP<ZZOX<ZZO<ZZOP<ZZEX<ZZE<ZZEP<ZZUX<ZZU<ZZUP",
    "<ZZURX<ZZUR<ZZYT<ZZYX<ZZY<ZZYP<ZZYRX<ZZYR<NZIT<NZIX<NZI<NZIP<NZIEX<NZIE<NZIEP<NZAT<NZAX<NZA<N",
    "ZAP<NZUOX<NZUO<NZOX<NZOP<NZEX<NZE<NZUX<NZU<NZUP<NZURX<NZUR<NZYT<NZYX<NZY<NZYP<NZYRX<NZYR<SIT<",
    "kz<SI<SIP<SIEX<SIE<SIEP<SAT<SAX<SA<SAP<SUOX<SUO<SUOP<SOT<SOX<SO<SOP<SEX<SE<SEP<SUT<SUX<SU<SUP",
    "<SURX<SUR<SYT<SYX<SY<SYP<SYRX<SYR<SSIT<SSIX<SSI<SSIP<SSIEX<SSIE<SSIEP<SSAT<SSAX<py<SSAP<SSOT<",
    "SSOX<SSO<SSOP<SSEX<SSE<SSEP<SSUT<SSUX<SSU<SSUP<SSYT<SSYX<SSY<SSYP<SSYRX<SSYR<ZHAT<ZHAX<ZHA<ZH",
    "AP<ZHUOX<ZHUO<ZHUOP<ZHOT<ZHOX<ZHO<ZHOP<ZHET<ZHEX<ZHE<ZHEP<ZHUT<ZHUX<ZHU<ZHUP<ZHURX<ZHUR<ZHYT<",
    "ZHYX<ZHY<ZHYP<ZHYRX<ZHYR<CHAT<CHAX<nk<CHAP<CHUOT<CHUOX<CHUO<CHUOP<CHOT<CHOX<CHO<CHOP<CHET<CHE",
    "X<CHE<CHEP<CHUX<CHU<CHUP<CHURX<CHUR<CHYT<CHYX<CHY<CHYP<CHYRX<CHYR<RRAX<RRA<RRUOX<RRUO<RROT<RR",
    "OX<RRO<RROP<RRET<RREX<RRE<RREP<RRUT<RRUX<RRU<RRUP<RRURX<RRUR<RRYT<RRYX<RRY<RRYP<RRYRX<RRYR<NR",
    "AT<NRAX<NRA<NRAP<NROX<NRO<NROP<NRET<NREX<NRE<NREP<NRUT<NRUX<NRU<NRUP<NRURX<NRUR<NRYT<NRYX<NRY",
    "<NRYP<NRYRX<NRYR<SHAT<SHAX<nb<SHAP<SHUOX<SHUO<SHUOP<SHOT<SHOX<SHO<SHOP<SHET<SHEX<SHE<SHEP<SHU",
    "T<SHUX<SHU<SHUP<SHURX<SHUR<SHYT<SHYX<SHY<SHYP<SHYRX<SHYR<RAT<RAX<RA<RAP<RUOX<RUO<RUOP<ROT<ROX",
    "<RO<ROP<REX<RE<REP<RUT<RUX<RU<RUP<RURX<RUR<RYT<RYX<RY<RYP<RYRX<RYR<JIT<JIX<JI<JIP<JIET<JIEX<J",
    "IE<JIEP<JUOT<JUOX<JUO<JUOP<JOT<JOX<JO<JOP<JUT<JUX<JU<JUP<JURX<JUR<JYT<JYX<JY<JYP<JYRX<JYR<QIT",
    "<QIX<QI<QIP<QIET<QIEX<QIE<QIEP<QUOT<QUOX<QUO<QUOP<QOT<QOX<QO<QOP<QUT<QUX<QU<QUP<QURX<QUR<QYT<",
    "QYX<QY<QYP<QYRX<QYR<JJIT<JJIX<JJI<JJIP<JJIET<JJIEX<JJIE<JJIEP<JJUOX<JJUO<JJUOP<JJOT<JJOX<JJO<",
    "JJOP<JJUT<JJUX<JJU<JJUP<JJURX<JJUR<JJYT<JJYX<JJY<JJYP<NJIT<NJIX<NJI<NJIP<NJIET<NJIEX<NJIE<NJI",
    "EP<NJUOX<NJUO<NJOT<NJOX<NJO<NJOP<NJUX<NJU<NJUP<NJURX<NJUR<NJYT<NJYX<NJY<NJYP<NJYRX<NJYR<NYIT<",
    "NYIX<NYI<NYIP<NYIET<NYIEX<NYIE<NYIEP<NYUOX<NYUO<NYUOP<NYOT<NYOX<NYO<NYOP<NYUT<NYUX<NYU<NYUP<X",
    "IT<XIX<XI<XIP<XIET<XIEX<XIE<XIEP<XUOX<XUO<XOT<XOX<XO<XOP<XYT<XYX<XY<XYP<XYRX<XYR<YIT<YIX<YI<Y",
    "IP<YIET<YIEX<YIE<YIEP<YUOT<YUOX<YUO<YUOP<YOT<YOX<YO<YOP<YUT<YUX<YU<YUP<YURX<YUR<YYT<YYX<YY<YY",
    "P<YYRX<YYR"]),
  (0xA490, [":YI RADICAL QOT<LI<KIT<NYIP<CYP<SSI<GGOP<GEP<MI<HXIT<LYR<BBUT<MOP<YO<PUT<HXUO<TAT<GA<",
    "ZUP<CYT<DDUR<BUR<GGUO<NYOP<TU<OP<JJUT<ZOT<PYT<HMO<YIT<VUR<SHY<VEP<ZA<JO<NZUP<JJY<GOT<JJIE<WO<",
    "DU<SHUR<LIE<CY<CUOP<CIP<HXOP<SHAT<ZUR<SHOP<CHE<ZZIET<NBIE<KE"]),
  (0xA4D0, [":LISUbBA<PA<om<DA<TA<nw<GA<KA<nn<JA<CA<nk<DZA<TSA<TSHA<MA<NA<LA<SA<ZHA<ZA<na<HA<XA<HH",
    "A<FA<WA<nb<YA<oz<A<AE<E<EU<I<O<U<UE<UH<OE<muMYA TI=NA PO=MYA CYA>BO>NA>JEU;pqnv<ovnd:VAIojEE<",
    "EEN<HEE<WEE<WEEN<PEE<BHEE<BEE<MBEE<KPEE<MGBEE<GBEE<FEE<VEE<TEE<THEE<DHEE<DHHEE<LEE<REE<DEE<ND",
    "EE<SEE<SHEE<ZEE<ZHEE<CEE<JEE<NJEE<YEE<KEE<NGGEE<GEE<MEE<NEE<NYEE<I<IN<HI<HIN<WI<WIN<PI<BHI<BI",
    "<MBI<KPI<MGBI<GBI<FI<VI<TI<THI<DHI<DHHI<LI<RI<DI<NDI<SI<SHI<ZI<ZHI<CI<JI<NJI<YI<KI<NGGI<GI<MI",
    "<NI<NYI<A<AN<NGAN<HA<HAN<WA<WAN<PA<pn<BA<MBA<KPA<KPAN<MGBA<GBA<FA<VA<TA<nw<pa<DHHA<LA<RA<DA<N",
    "DA<SA<nb<ZA<ZHA<CA<JA<NJA<YA<KA<KAN<NGGA<GA<MA<NA<nl<OO<OON<HOO<WOO<WOON<POO<BHOO<BOO<MBOO<KP",
    "OO<MGBOO<GBOO<FOO<VOO<TOO<THOO<DHOO<DHHOO<LOO<ROO<DOO<NDOO<SOO<SHOO<ZOO<ZHOO<COO<JOO<NJOO<YOO",
    "<KOO<NGGOO<GOO<MOO<NOO<NYOO<U<UN<HU<HUN<WU<WUN<PU<BHU<BU<MBU<KPU<MGBU<GBU<FU<VU<TU<THU<DHU<DH",
    "HU<LU<RU<DU<NDU<SU<SHU<ZU<ZHU<CU<JU<NJU<YU<KU<NGGU<GU<MU<NU<NYU<O<ON<NGON<HO<HON<WO<WON<PO<BH",
    "O<BO<MBO<KPO<MGBO<GBO<GBON<FO<VO<TO<THO<DHO<DHHO<LO<RO<DO<NDO<SO<SHO<ZO<ZHO<CO<JO<NJO<YO<KO<N",
    "GGO<GO<MO<NO<NYO<E<EN<NGEN<HE<HEN<WE<WEN<PE<BHE<BE<MBE<KPE<KPEN<MGBE<GBE<GBEN<FE<VE<TE<THE<DH",
    "E<DHHE<LE<RE<DE<NDE<SE<SHE<ZE<ZHE<CE<JE<NJE<YE<KE<NGGE<NGGEN<GE<GEN<ME<NE<NYE<NG<LENGTHENER;n",
    "v;ovnd;rwkg;ojNDOLE FA=KA=SOO;kpFEENG<KEENG<TING<NII<BANG<FAA<TAA<DANG<DOONG<KUNG<TONG<DO-O<J",
    "ONG;lumk<kd<kb<ki<km<kq<kz<le<la<li;ojNDOLE MA=DO"]),
  (0xA640, [":wfebZEMLYA;cbZEMLYA;ebDZELO;cbDZELO;ebmyDZE;cbmyDZE;ebrd;cbrd;ebDJERV;cbDJERV;ebMONO",
    "GRAPH UK;cbMONOGRAPH UK;ebBROADqi;cbBROADqi;ebtjYER;cbtjYER;ebYERUaBACK YER;cbYERUaBACK YER;e",
    "bvkYAT;cbvkYAT;ebmyYU;cbmyYU;ebvkA;cbvkA;ebqqolYUS;cbqqolYUS;ebBLENDED YUS;cbBLENDED YUS;ebvk",
    "qqolYUS;cbvkqqolYUS;ebYN;cbYN;ebmyTSE;cbmyTSE;ebSOFT DE;cbSOFT DE;ebSOFT EL;cbSOFT EL;ebSOFT ",
    "EM;cbSOFT EM;ebMONOCULAR O;cbMONOCULAR O;ebBINOCULAR O;cbBINOCULAR O;ebkfMONOCULAR O;cbkfMONO",
    "CULAR O;bMULTIOCULAR O:pjwfVZMET<mrMILLIONSf<lgMILLIONSf<lqMILLIONSf:SLAVONICpg:pjwfbUKRAINIA",
    "N IE=I=YI=U=HARDf=YERU=SOFTf=qi<KAVYKA<PAYEROK:wfKAVYKA;PAYEROK;ebDWE;cbDWE;ebDZWE;cbDZWE;ebZ",
    "HWE;cbZHWE;ebCCHE;cbCCHE;ebDZZE;cbDZZE;ebTEakskn;cbTEakskn;ebTWE;cbTWE;ebTSWE;cbTSWE;ebTSSE;c",
    "bTSSE;ebTCHE;cbTCHE;ebHWE;cbHWE;ebSHWE;cbSHWE;ebkfO;cbkfO;ebwsO;cbwsO:rebwfHARDf=SOFTf:pjwfbE",
    "F=vkE:BAMUMbA<KA<U<KU<EE<REE<TAE<O<NYI<I<LA<PA<RII<RIEE<LEEEE<MEEEE<TAA<NDAA<NJAEM<M<SUU<MU<S",
    "HII<SI<SHEUX<SEUX<KYEE<KET<NUAE<NU<NJUAE<YOQ<SHU<YUQ<YA<NSHA<KEUX<PEUX<NJEE<NTEE<PUE<WUE<PEE<",
    "FEE<RU<LU<MI<NI<REUX<RAE<KEN<NGKWAEN<NGGA<na<SHO<PUAE<FU<FOM<WA<NA<LI<PI<LOQ<KO<MBEN<REN<MEN<",
    "MA<TI<KI<MO<MBAA<TET<KPA<mr<NTUU<SAMBA<FAAMAE<KOVUU<KOGHOM;pjkgKOQNDON=TUKWENTIS;NJAEMLI;ovnd",
    ";rb;nv;xp;rwkg"]),
  (0xA700, [":rebCHINESEmuYIN PING>YANG PING>YIN SHANG>YANG SHANG>YIN QU>YANG QU>YIN RU>YANG RU<EX",
    "TRA-HIGHqemulb<mvqemulb<MIDqemulb<mcqemulb<EXTRA-LOWqemulb<EXTRA-HIGHqeyfmulb<mvqeyfmulb<MIDq",
    "eyfmulb<mcqeyfmulb<EXTRA-LOWqeyfmulb<EXTRA-HIGHyfmulb<mvyfmulb<MIDyfmulb<mcyfmulb<EXTRA-LOWyf",
    "mulb<khkwlb=vp=lvlb<lxjrcor<smUPh=ldh=skkg=nmskkg<mcnmskkg<STRESSgmvmu>mcmu:ogebEGYPTOLOGICAL",
    "ls;cbEGYPTOLOGICALls;ebEGYPTOLOGICAL AIN;cbEGYPTOLOGICAL AIN;ebHENG;cbHENG;ebTZ;cbTZ;ebTRESIL",
    "LO;cbTRESILLO;ebCUATRILLO;cbCUATRILLO;ebCUATRILLOanv;cbCUATRILLOanv;bceF>S;ebAA;cbAA;ebAO;cbA",
    "O;ebAU;cbAU;ebAV;cbAV;ebAValvlb;cbAValvlb;ebAY;cbAY;ebmyCakh;cbmyCakh;ebKako;cbKako;ebKapkko;",
    "cbKapkko;ebKakogpkko;cbKakogpkko;ebBROKEN L;cbBROKEN L;ebLamvko;cbLamvko;ebOamokote;cbOamokot",
    "e;ebOaLOOP;cbOaLOOP;ebOO;cbOO;ebPakownqc;cbPakownqc;ebPaFLOURISH;cbPaFLOURISH;ebPaSQUIRRELon;",
    "cbPaSQUIRRELon;ebQakownqc;cbQakownqc;ebQapkko;cbQapkko;ebR ROTUNDA;cbR ROTUNDA;ebRUM ROTUNDA;",
    "cbRUM ROTUNDA;ebVapkko;cbVapkko;ebVY;cbVY;ebVISIGOTHIC Z;cbVISIGOTHIC Z;ebTHORNako;cbTHORNako",
    ";ebTHORNakownqc;cbTHORNakownqc;ebVEND;cbVEND;ebET;cbET;ebIS;cbIS;ebCON;cbCON:rebUS:ogcbDUM=LU",
    "M=MUM=NUM=RUM;bceRUM;cbTUM=UM;ebulD;cbulD;ebulF;cbulF;ebulG=mqulG;cbmqulG;ebmqL;cbmqL;ebulR;c",
    "bulR;ebulS;cbulS;ebulT;cbulT:rebmcmsqf<rb<ouqrf:ogebSALTILLO;cbSALTILLO;ebmqH;cbLapukngBELT;b",
    "SINOLOGICALkh;ebNaqc;cbNaqc;ebCalb;cbCalb?rvkn=Harvkn;ebBaFLOURISH;cbBaFLOURISH;ebFako;cbFako",
    ";ebVOLAPUK AE;cbVOLAPUK AE;ebVOLAPUK OE;cbVOLAPUK OE;ebVOLAPUK UE;cbVOLAPUK UE;ebGavzko;cbGav",
    "zko;ebKavzko;cbKavzko;ebNavzko;cbNavzko;ebRavzko;cbRavzko;ebSavzko;cbSavzko;ebHakn=mympE=rfG=",
    "LaBELT=ceI;bceQ;ebmqK>T=Jayk=CHI=BETA;cbBETA;ebqi;cbqi;ebUako;cbUako;ebrzA;cbrzA;ebrzI;cbrzI;",
    "ebrzU;cbrzU;ebodPOLISH O;cbodPOLISH O;ebANGLICANA W;cbANGLICANA W;ebCarvkn=Sakn=Zarvkn=Daouko",
    "te;cbDaoukote;ebSaoukote;cbSaoukote"]),
  (0xA7D0, [":ogebqqulG;cbqqulG"]),
  (0xA7D3, [":ogcbkfTHORN"]),
  (0xA7D5, [":ogcbkfWYNN;ebksSCOTS S;cbksSCOTS S;ebSIGMOID S;cbSIGMOID S"]),
  (0xA7F2, [":rebeC=F=Q:ogebmylfH;cbmylfH;EPIGRAPHICbyqI:rebeHako<cqnOE:ogbcemqM;EPIGRAPHICbmyF>P=",
    "nmM=I LONGA=tuM:SYLOTI NAGRIbA=I<fDVISVARA<bU=E=O<fHASANTA<bKO=KHO=GO=GHO<fow<bCO=CHO=JO=JHO=",
    "TTO=TTHO=DDO=DDHO=TO=THO=DO=DHO=NO=PO=PHO=BO=BHO=MO=RO=LO=RRO=SO=HO<lhfA>I>U>E>OO<POETRY MARK",
    "-1@@@<ftaHASANTA"]),
  (0xA830, [":pbINDICtwkdqy>lf=kiwc=kdSIXTEENTH>sf=kiSIXTEENTHS<qykg<PLACEHOLDERkg<RUPEEkg<QUANTIT",
    "Ykg"]),
  (0xA840, [":PHAGS-PAbKA<nn<GA<na<CA<nk<JA<nl<TA<nw<DA<NA<PA<om<BA<MA<TSA<TSHA<DZA<WA<ZHA<ZA<cA<Y",
    "A<RA<LA<nb<SA<HA<A<I<U<E<O<QA<XA<FA<GGA<EE;zebWA=YA;box<px<oy<pm<taYA<VOICELESSnb<VOICED HA<A",
    "SPIRATED FA;zebRA;SUPERFIXEDbRA;brh;ncHEADkg;kfHEADkg;kgSHAD<kfSHAD"]),
  (0xA880, [":SAURASHTRAfow<qp;bA<AA<I<II<U<UU<ofR=RR=L=LL<E<EE<AI<O<OO<AU<KA<nn<GA<oz<na<CA<nk<JA",
    "<JHA<nl<ox<px<oy<qb<pm<TA<nw<DA<pa<NA<PA<om<BA<pn<MA<YA<RA<LA<VA<nb<py<SA<HA<LLA;tbfHAARU;lhf",
    "AA=I=II=U=UU=ofR>RR>L>LL=E=EE=AI=O=OO=AU;fqa<rh"]),
  (0xA8CE, [":SAURASHTRArp;kfrp;lumk<kd<kb<ki<km<kq<kz<le<la<li"]),
  (0xA8E0, [":pjDEVANAGARIlumk=kd=kb=ki=km=kq=kz=le=la=li<bA=U=KA=NA=PA=RA=VI<fvd:DEVANAGARIfSPACI",
    "NGrh<rhqa<kfrhqa<rhkb=ki=vd<PUSHPIKA;GAP FILLER;CARET;HEADSTROKE;fSIDDHAM;JAIN OM;bAY;lhfAY:K",
    "AYAH LIlumk=kd=kb=ki=km=kq=kz=le=la=li<bKA=nn=GA=na=SA=nb=ZA=nl=TA=HTA=NA=PA=om=MA=DA=BA=RA=Y",
    "A=LA=WA=nw=HA=VA=CA=A=OE=I=OO<lhUE=E=U=EE=O<muPLOPHU=CALYA>PLOPHU<fCWI=SHYA:REJANGbKA<GA<na<T",
    "A<DA<NA<PA<BA<MA<CA<JA<nl<SA<RA<LA<YA<WA<HA<MBA<NGGA<NDA<NYJA<A;lhfI=U=E=AI=O=AU=EU=EA;tbfNG=",
    "N=R=H;qa"]),
  (0xA95F, [":REJANGsvkg:ukCHOSEONG TIKEUT-MIEUM<TIKEUT-PIEUP<TIKEUT-SIOS<TIKEUT-CIEUC<RIEUL-KIYEO",
    "K<RIEUL-SSANGKIYEOK<RIEUL-TIKEUT<RIEUL-SSANGTIKEUT<RIEUL-MIEUM<RIEUL-PIEUP<RIEUL-SSANGPIEUP<R",
    "IEUL-KAPYEOUNPIEUP<RIEUL-SIOS<RIEUL-CIEUC<RIEUL-KHIEUKH<MIEUM-KIYEOK<MIEUM-TIKEUT<MIEUM-SIOS<",
    "PIEUP-SIOS-THIEUTH<PIEUP-KHIEUKH<PIEUP-HIEUH<SSANGSIOS-PIEUP<IEUNG-RIEUL<IEUNG-HIEUH<SSANGCIE",
    "UC-HIEUH<SSANGTHIEUTH<PHIEUPH-HIEUH<HIEUH-SIOS<SSANGYEORINHIEUH"]),
  (0xA980, [":JAVANESEfPANYANGGA<CECAK<LAYAR<WIGNYAN;bA<I KAWI=<II<U<PA CEREK<naLELET>RASWADI<E<AI",
    "<O<KA=SASAK=MURDA<GA=MURDA<na<CA=MURDA<JA<nlMURDA<JAzb<nl<ox=zb<oy=zb<NA MURDA<TA=MURDA<DA=zb",
    "<NA<PA=MURDA<BA=MURDA<MA<YA<RA=AGUNG<LA<WA<SA MURDA=zb=<HA;fCECAK TELU;lhfTARUNG=TOLONG=WULU>",
    "MELIK=SUKU>MENDUT=TALING=DIRGA MURE=PEPET;tbfKERET=PENGKAL=CAKRA;PANGKON;kaRERENGGAN;jRERENGG",
    "AN;PADA ANDAP<MADYA<LUHUR<WINDU<PANGKAT<LINGSA<LUNGSI<ADEG=ADEG<PISELEH;mqPADA PISELEH"]),
  (0xA9CF, [":JAVANESE PANGRANGKEP;lumk<kd<kb<ki<km<kq<kz<le<la<li"]),
  (0xA9DE, [":JAVANESE PADA TIRTA TUMETES<ISEN-ISEN:MYANMARbSHANoz=nk=JHA=pm=pn;fSHAN SAW;rebSHAN ",
    "REDUPLICATION;bTAI LAINGnl>FA>GA>oz>JA>JHA>oy>qb>pm;TAI LAINGlumk>kd>kb>ki>km>kq>kz>le>la>li;",
    "bTAI LAING LLA>DA>pa>BA>pn"]),
  (0xAA00, [":CHAMbA<I<U<E<AI<O<KA<nn<GA<oz<NGUE<na<nk<CHHA<JA<JHA<NHUE<NHA<NHJA<TA<nw<DA<pa<NUE<N",
    "A<oy<PA<PPA<om<BA<pn<MUE<MA<BBA<YA<RA<LA<VA<py<SA<HA;lhfAA=I=II=EI=U=OE=O=AI=AU=UE;tbfYA=RA=L",
    "A=WA"]),
  (0xAA40, [":CHAMbkeK=G=NG;tbfkeNG;bkeCH=T=N=P=Y=R=L=SS;tbfkeM>H"]),
  (0xAA50, [":CHAMlumk<kd<kb<ki<km<kq<kz<le<la<li"]),
  (0xAA5C, [":CHAMpqSPIRAL<rp<kfrp<pfrp:MYANMARbKHAMTI GA=CA=nk=JA=JHA=nl=ox=px=oy=qb=pa=NA=SA=HA=",
    "HHA=FA;rebKHAMTI REDUPLICATION;bKHAMTI XA=ZA=RA;LOGOGRAM KHAMTI OAY=QN=HM;kpAITONsk=kd=kb;bAI",
    "TON RA;fPAO KARENmu<TAI LAING TONE-2>TONE-5;bSHWE PALAUNGnk>nb:TAI VIETbmcKO=mvKO=mcKHO=mvKHO",
    "=mcKHHO=mvKHHO=mcGO=mvGO=mcNGO=mvNGO=mcCO=mvCO=mcCHO=mvCHO=mcSO=mvSO=mcNYO=mvNYO=mcDO=mvDO=mc",
    "TO=mvTO=mcTHO=mvTHO=mcNO=mvNO=mcBO=mvBO=mcPO=mvPO=mcPHO=mvPHO=mcFO=mvFO=mcMO=mvMO=mcYO=mvYO=m",
    "cRO=mvRO=mcLO=mvLO=mcVO=mvVO=mcHO=mvHO=mcO=mvO<MAI KANG<lhAA=I=UE=U=E=O<MAI KHIT<lhIA=UEA=UA=",
    "AUE=AY=AN=AM<muMAI EK>NUENG>THO>SONG"]),
  (0xAADB, [":TAI VIETkpKON=NUENG=SAM=HO HOI=KOI KOI:MEETEI MAYEKbE=O=nk=nl=ox=px=oy=qb=pm=nb=py<l",
    "hfII>UU>AAI>AU>AAU<CHEIKHAN<AHANG KHUDAM<ANJI<ojREPETITIONkg<WORD REPETITIONkg<lhfqp<qa"]),
  (0xAB01, [":qmojTTHU<TTHI<TTHAA<TTHEE<TTHE<TTHO"]),
  (0xAB09, [":qmojDDHU<DDHI<DDHAA<DDHEE<DDHE<DDHO"]),
  (0xAB11, [":qmojDZU<DZI<DZAA<DZEE<DZE<DZO"]),
  (0xAB20, [":qmojCCHHA<CCHHU<CCHHI<CCHHAA<CCHHEE<CCHHE<CCHHO"]),
  (0xAB28, [":qmojBBA<BBU<BBI<BBAA<BBEE<BBE<BBO"]),
  (0xAB30, [":ogcbBARREDqt=A REVERSED-SCHWA=BLACKLETTER E=BARRED E=EaFLOURISH=LENIS F=rfGayk=LanmL",
    "AZY S?kfksly?ksma=Mayk=Nayk=ENGayk=BLACKLETTER O?ako=mpOako=nmOE=mqOEako?alvko>O OPEN-O?OPEN-",
    "Oako=STIRRUP R;bceRajLEG;cbR WITHOUT HANDLE=kfR=Rayk=kfRayk=rfR?ama=BASELINE ESH=UaoujLEG>lba",
    "oujLEG=UI=mqUI=Uakakn=CHI>amcjma?mckaSERIF=Xamcjma?mokaLEG?mokaLEGgmcjma?mokaLEGaSERIF=YaoujL",
    "EG:reohanmoh;bcHENG=LanmLAZY S?ksly=Uakakn:ogcbSAKHA YAT=vkE=mpOE=UO=nmqt:plbceqi:ogcbDZryapu",
    "kn=TSryapukn=mqRaksly:rebcmqW<kaqw<jqw"]),
  (0xAB70, [":CHEROKEEcbA=E=I=O=U=V=GA=KA=GE=GI=GO=GU=GV=HA=HE=HI=HO=HU=HV=LA=LE=LI=LO=LU=LV=MA=ME",
    "=MI=MO=MU=NA=HNA=NAH=NE=NI=NO=NU=NV=QUA=QUE=QUI=QUO=QUU=QUV=SA=S=SE=SI=SO=SU=SV=DA=TA=DE=TE=D",
    "I=TI=DO=DU=DV=DLA=TLA=TLE=TLI=TLO=TLU=TLV=TSA=TSE=TSI=TSO=TSU=TSV=WA=WE=WI=WO=WU=WV=YA:MEETEI",
    " MAYEKbKOK=SAM=LAI=MIT=PA=NA=CHIL=TIL=KHOU=NGOU=THOU=WAI=YANG=HUK=UN=I=PHAM=ATIYA=GOK=JHAM=RA",
    "I=BA=JIL=DIL=GHOU=DHOU=BHAM=KOK LONSUM=LAI LONSUM=MIT LONSUM=PA LONSUM=NA LONSUM=TIL LONSUM=N",
    "GOU LONSUM=I LONSUM<lhfONAP>INAP>ANAP>YENAP>SOUNAP>UNAP>CHEINAP>NUNG<CHEIKHEI<LUM IYEK<APUN I",
    "YEK"]),
  (0xABF0, [":MEETEI MAYEKlumk=kd=kb=ki=km=kq=kz=le=la=li"]),
  (0xD7B0, [":ukJUNGSEONG O-YEO<O-O-I<YO-A<YO-AE<YO-EO<U-YEO<U-I-I<YU-AE<YU-O<EU-A<EU-EO<EU-E<EU-O",
    "<I-YA-O<I-YAE<I-YEO<I-YE<I-O-I<I-YO<I-YU<I-I<ARAEA-A<ARAEA-E"]),
  (0xD7CB, [":ukJONGSEONG NIEUN-RIEUL<NIEUN-CHIEUCH<SSANGTIKEUT<SSANGTIKEUT-PIEUP<TIKEUT-PIEUP<TIK",
    "EUT-SIOS<TIKEUT-SIOS-KIYEOK<TIKEUT-CIEUC<TIKEUT-CHIEUCH<TIKEUT-THIEUTH<RIEUL-SSANGKIYEOK<RIEU",
    "L-KIYEOK-HIEUH<SSANGRIEUL-KHIEUKH<RIEUL-MIEUM-HIEUH<RIEUL-PIEUP-TIKEUT<RIEUL-PIEUP-PHIEUPH<RI",
    "EUL-YESIEUNG<RIEUL-YEORINHIEUH-HIEUH<KAPYEOUNRIEUL<MIEUM-NIEUN<MIEUM-SSANGNIEUN<SSANGMIEUM<MI",
    "EUM-PIEUP-SIOS<MIEUM-CIEUC<PIEUP-TIKEUT<PIEUP-RIEUL-PHIEUPH<PIEUP-MIEUM<SSANGPIEUP<PIEUP-SIOS",
    "-TIKEUT<PIEUP-CIEUC<PIEUP-CHIEUCH<SIOS-MIEUM<SIOS-KAPYEOUNPIEUP<SSANGSIOS-KIYEOK<SSANGSIOS-TI",
    "KEUT<SIOS-PANSIOS<SIOS-CIEUC<SIOS-CHIEUCH<SIOS-THIEUTH<SIOS-HIEUH<PANSIOS-PIEUP<PANSIOS-KAPYE",
    "OUNPIEUP<YESIEUNG-MIEUM<YESIEUNG-HIEUH<CIEUC-PIEUP<CIEUC-SSANGPIEUP<SSANGCIEUC<PHIEUPH-SIOS<P",
    "HIEUPH-THIEUTH"])
]

end MetesBounds.Text.CharName
