import MetesBounds.Text.CharName.Block

/-!
# `Text/CharName/Southern` — the names of the scripts from Hebrew to Cherokee
-/

set_option autoImplicit false

namespace MetesBounds.Text.CharName

/-- Names of the scripts from Hebrew to Cherokee. -/
def southern : List Block := [
  (0x591, [":HEBREWqfETNAHTA<SEGOL<SHALSHELET<ZAQEF QATAN=GADOL<TIPEHA<REVIA<ZARQA<PASHTA<YETIV<TE",
    "VIR<GERESH=MUQDAM<GERSHAYIM<QARNEY PARA<TELISHA GEDOLA<PAZER<ATNAH HAFUKH<MUNAH<MAHAPAKH<MERK",
    "HA=KEFULA<DARGA<QADMA<TELISHA QETANA<YERAH BEN YOMO<OLE<ILUY<DEHI<ZINOR;kgMASORAln;POINT SHEV",
    "A<HATAF SEGOL=PATAH=QAMATS<HIRIQ<TSERE<SEGOL<PATAH<QAMATS<HOLAM=HASERqgVAV<QUBUTS<tcOR MAPIQ<",
    "METEG;pqMAQAF;POINT RAFE;pqPASEQ;POINTrrkh<SINkh;pqSOF PASUQ;kgmjkh<lxkh;pqpdHAFUKHA;POINT QA",
    "MATS QATAN"]),
  (0x5D0, [":HEBREWbls<BET<vh<DALET<HE<VAV<ZAYIN<HET<TET<YOD<keKAF<KAF<LAMED<keMEM<MEM<kepd<pd<vo<",
    "AYIN<kePE<PE<keTSADI<TSADI<QOF<RESH<rr<TAV"]),
  (0x5EF, [":HEBREW YODmb;qnYIDDISHkfVAV=VAV YOD=kfYOD;pqGERESH<GERSHAYIM"]),
  (0x600, [":nxnpf;fSANAH;FOOTNOTE MARKER;fSAFHA<SAMVAT;npkgi:vqCUBE ROOT;FOURTH ROOT:nxRAY:vqPER ",
    "MILLEf<mrlqf:AFGHANIf:nxnv;DATErg;POETIC VERSEf;fMISRA<SALLALLAHOU ALAYHE WASSALLAM<ALAYHE AS",
    "SALLAM<RAHMATULLAH ALAYHE<RADI ALLAHOU ANHU<TAKHALLUS;cmvTAH=qnlsaLAMalp=ZAIN<FATHA<DAMMA<KAS",
    "RA;xp;bkg;END OF TEXTkg;pfkhpqkg;rwkg;bKASHMIRIlp<pp<lsaMADDAi>ppi<qjappi<lsappkc<lpappi<ls<B",
    "EH<TEH MARBUTA=<THEH<mn<me<ok<DAL<THAL<REH<ZAIN<sg<ua<SAD<DAD<TAH<ZAH<AIN<uu<KEHEHakblmi>kilm",
    "kc<FARSIlpanmV?kblmi?kilmi;TATWEEL;bFEH<QAF<KAF<LAM<kx<qh<HEH<qj<lsnj<lp;FATHATAN;DAMMATAN;KA",
    "SRATAN;FATHA;DAMMA;KASRA;SHADDA;SUKUN;MADDAHi;ppi<kc;SUBSCRIPTls;nmDAMMA;kgqhGHUNNA;ZWARAKAY;",
    "lhfcVi=nmcVi=khkc;myDAMMA;FATHAakblm;WAVYppkc:vqlumk<kd<kb<ki<km<kq<kz<le<la<li:nxPERCENTf;DE",
    "CIMALrg;zfrg;kqqsoe;bvgBEH=QAF<wmls<lsWASLA=aWAVYppi?ppkc<mvpp>ls>qj<Uappi<mvpplp<TTEH<TTEHEH",
    "<BEEH<TEHama>kilmilz<PEH<TEHEH<BEHEH<meappi>kblmkwi<NYEH<DYEH<meakilmi<TCHEH<TCHEHEH<DDAL<DAL",
    "ama>khkc?kcgcTAH<DAHAL<DDAHAL<DUL<DALakilmilz>kmlmi<RREH<REHacV>ma>khkc>cVkc>khkcgkhi>kblmi<J",
    "EH<REHakmlmi<sgakhkcgkhi>kilmkc?lmkcgkilmi<SADakblmkc>kilmi<TAHakilmi<AINakilmi<vgFEH<FEHakhM",
    "OVEDkc?kc<VEH<FEHakilmkc<PEHEH<QAFakhi>kilmi<KEHEH<SWASH KAF<KAFama>khi<NG<KAFakilmkc<GAF=ama",
    "<NGOEH<GAFakblmkc<GUEH<GAFakilmi<LAMacV>khi>kilmi?lmkc<qhakhkc=GHUNNA<RNOON<qhama>kilmi<HEH D",
    "OACHASHMEE<TCHEHakhi<HEHalpi=GOAL>appi<TEH MARBUTA GOAL<qjama<KIRGHIZ OE<OE<U<YU<KIRGHIZ YU<q",
    "jakblmi<VE<FARSIlp<lpaon>cV<qjakhi<E<lpakilmkc=BARREE>appi;ovnd;bAE;cmvqnSADaLAMalsnj>QAFaLAM",
    "alsnj=kxkrd=LAMls=mn=kilm=sg;END OF AYAH;START OF RUB EL HIZB;cmvROUNDEDmk=UPRIGHT RECTANGULA",
    "Rmk=vgHEAD OFok=kxkkd<mcsg<mvMADDA<qj<lp<mvlp=qh;PLACE OF SAJDAH;EMPTYnsmcnd=mvnd;ROUNDEDmvnd",
    "aFILLEDns;cmckx;bDALanmV<REHanmV:xtvqlumk=kd=kb=ki=km=kq=kz=le=la=li:nxbuaakhkc<DADakhkc<uuak",
    "hkc;fSINDHIyt=POSTPOSITION MEN;bHEHanmV:SYRIAC END OF PARAGRAPH;SUPRALINEARovnd;SUBLINEARovnd",
    ";SUPRALINEARrb;SUBLINEARrb;lvrb;rbSKEWEDka=j;SUPRALINEARrbSKEWEDka;SUBLINEARrbSKEWEDj;CONTRAC",
    "TION;HARKLEAN OBELUS<METOBELUS<ASTERISCUS"]),
  (0x70F, [":SYRIACuckg;bALAPH<wmALAPH<BETH<GAMAL=GARSHUNI<DALATH<vgDALATH RISH<HE<qj<ZAIN<HETH<TE",
    "TH=GARSHUNI<YUDH=HE<KAPH<LAMADH<MIM<pd<SEMKATH<keSEMKATH<E<PE<myPE<SADHE<QAPH<RISH<rr<TAW<PER",
    "SIAN BHETH=GHAMAL=DHALATH;PTHAHAi<kc<qe;ZQAPHAi<kc<qe;RBASAi<kc;qeZLAMAlv=ANGULAR;HBASAi<kc;H",
    "BASA-ESASAqe;ESASAi<kc;RWAHA;FEMININEkh;QUSHSHAYA;RUKKAKHA;kbkwlmi>kc;kilmi=kc;vzmwi=kc;MUSIC",
    ";BARREKH"]),
  (0x74D, [":SYRIACbSOGDIAN ZHAIN=KHAPH=FE:nxbBEHakilmHORIZONTALLYkc>khkcgkilmi>kilmngmfkc?lmngmfk",
    "cgkblmi>kblmkcgkhi>nmcVkc>cV<meakblmi>kilmngmfkc<DALakblmzmkcgcTAH>nmcVkc<REHako<sgakmlmi<AIN",
    "akblmi>kilmnglzi>kblmzmi<FEHakblmkc>kilmngmfkc<KEHEHakhi>kilmi?lmngmfkc<kxakhi?kc<qhakblmkc>c",
    "TAH?V<LAMalb<REHakblmzmi>ppi<sgakblmzmi<meacnxbTAHkc?nxbTAHgkblm<sgacnxbTAHgkblm<REHacnxbTAHg",
    "kblm<meacnxbTAHi<lsaxtvqlukbi?vqlukii<FARSIlpaxtvqlukbi?xtvqlukii?xtvqlukmkc<qjaxtvqlukbi?vql",
    "ukii<lpBARREEaxtvqlukbi?xtvqlukii<meaxtvqlukmkc<sgaxtvqlukmi>nmV<KAFakblmi:THAANAbHAA<SHAVIYA",
    "NI<NOONU<RAA<BAA<LHAVIYANI<KAAFU<ALIFU<VAAVU<MEEMU<FAAFU<DHAALU<THAA<LAAMU<GAAFU<GNAVIYANI<SE",
    "ENU<DAVIYANI<ZAVIYANI<TAVIYANI<YAA<PAVIYANI<JAVIYANI<CHAVIYANI<TTAA<HHAA<KHAA<THAALU<ZAA<SHEE",
    "NU<SAADHU<DAADHU<TO<ZO<AINU<GHAINU<QAAFU<WAAVU;ABAFILI;AABAAFILI;IBIFILI;EEBEEFILI;UBUFILI;OO",
    "BOOFILI;EBEFILI;EYBEYFILI;OBOFILI;OABOAFILI;SUKUN;bNAA"]),
  (0x7C0, [":NKOlumk<kd<kb<ki<km<kq<kz<le<la<li;bA<EE<I<E<U<OO<O<DAGBASINNA<N<BA<PA<TA<JA<nk<DA<RA",
    "<RRA<SA<GBA<FA<KA<LA<NA WOLOSO<MA<nl<NA<HA<WA<YA<nlWOLOSO<JONA JA=nk=RA;pjoumvmu=mcmu=xbmu<mo",
    "DESCENDINGmu=mvmu=mcmu=xbmu<NASALIZATIONkg<kfkhi;mvmuyi;mcmuyi;kpOO DENNEN<GBAKURUNEN;nv;skkg",
    ";LAJANYALAN"]),
  (0x7FD, [":NKO DANTAYALAN;DOROMEf;TAMANf:SAMARITANbALAF<BIT<GAMAN<DALAT<IY<BAA<ZEN<IT<TIT<YUT<KA",
    "AF<LABAT<MIM<pd<SINGAAT<IN<FI<TSAADIY<QUF<RISH<SHAN<TAAF;kgIN<IN-ALAF<OCCLUSION<tc;rebEPENTHE",
    "TIC YUT;kgEPENTHETIC YUT;lhfmoE=E=OVERLONG AA=moAA=AA=OVERLONG A=moA=A;rebouA;lhfouA=moU=U;re",
    "bI;lhfmoI=I=O=SUKUN;kgNEQUDAA"]),
  (0x830, [":SAMARITANpqNEQUDAA<AFSAAQ<ANGED<BAU<ATMAAU<SHIYYAALAA;uckg;pqMELODIC QITSA<ZIQAA<QITS",
    "A<ZAEF<TURU<ARKAANU<SOF MASHFAAT<ANNAAU"]),
  (0x840, [":MANDAICbHALQA<AB<AG<AD<AH<USHENNA<AZ<IT<ATT<AKSA<AK<AL<AM<AN<AS<IN<AP<ASZ<AQ<AR<pc<AT",
    "<DUSHENNA<KAD<AIN;AFFRICATIONkg;VOCALIZATIONkg;GEMINATIONkg"]),
  (0x85E, [":MANDAICpq"]),
  (0x860, [":SYRIACbzcna=JA=nl=ox=pm=NNNA=pn=RA=LLA=LLLA=py"]),
  (0x870, [":nxblsaATTACHED FATHA?pwjFATHA>jksko>kaksko>ATTACHED KASRA?qzjKASRA?ROUNDkhi?jROUNDkh?",
    "kaROUNDkh?ROUNDkhkc>khi>ATTACHEDpwjFATHAgkhi>jkskogkhi>ATTACHEDqzjKASRAgkhi?pwjFATHAgkama>jks",
    "kogkama>ATTACHEDqzjKASRAgkama?jpp?kapp;TATWEELaOVERSTRUCKpp>qj=kblmkc;bTHINlp;BASELINE ROUNDk",
    "h;smROUNDkh;bqhanmcV<meanmcVkc<TAHakhkc>kilmkc<KEHEHakblmzmkc;kwon"]),
  (0x890, [":nxPOUNDkgi;PIASTREkgi"]),
  (0x898, [":nxcmvWORD AL-JUZ<mcWORD ISHMAAM>IMAALA>TASHEEL;MADDA WAAJIB;wmlsMOKHASSAS;DOUBLED MAD",
    "DA;lfMADDAloMADDA;bBEHacVkc>ppi<mnakblmi<TAHakblmi<FEHakhkcgkilmi<QAFakhkc<LAMakflb<kxakilmi<",
    "lpakblmkcgppi?lmkcgkhi<REHaLOOP<qjakhWITHIN<ROHINGYAlp<mcls<DALakilmkc<SADakilmkc<GAFanmko<sy",
    "qj<ZAINanmVi<AINakilmkc<KAFakhkc<QAFakhkcgNOlmi<BEHackxi<PEHackxi<TEHacTEHi<REHacqhi<lpakblmk",
    "cgcqhi<AFRICAN FEH=QAF=qh<PEHacV<TEHacV<TTEHacV<TCHEHacV<KEHEHacV<uuakilmi<AFRICAN QAFakilmi<",
    "mnakilmi?lmkc<LAMacnxbTAHi<GRAF;cFARSIlp<mvFARSIlp=lpBARREEakblmkc=WORD SAH=ZAH;nhROUNDkhi>kc",
    ";SUKUNkc;nhlnkc<ROUNDkhtylnkc;cmcqj<mvWORD AR-RUB=SAD=AIN=QAF=qhaKASRA<mcqhaKASRA<mvWORD ATH-",
    "THALATHA>AS-SAJDA>AN-NISF>SAKTA>QIF>WAQFA=FOOTNOTE MARKER=fSAFHA;DISPUTED END OF AYAH;mqDAMMA",
    "kc;siFATHA<DAMMA<KASRA<FATHATAN<DAMMATAN<KASRATAN;mukdkhi<kblmi<LOOPi<kdkhkc<kblmkc<LOOPkc;mp",
    "FATHATAN<DAMMATAN<KASRATAN;cmvqj;FATHAama=khi;KASRAakhkc;kanfi;jnfi;kanfkc;jnfkc;kfjnfi?akh;j",
    "nfiakh;DAMMAakh;kgyqqhGHUNNA:DEVANAGARIfnmrh<rh<ow<qp;bouA<A<AA<I<II<U<UU<ofR=L<vsE<ouE<E<AI<",
    "vsO<ouO<O<AU<KA<nn<GA<oz<na<CA<nk<JA<JHA<nl<ox<px<oy<qb<pm<TA<nw<DA<pa<NA<NNNA<PA<om<BA<pn<MA",
    "<YA<RA<RRA<LA<LLA<LLLA<VA<nb<py<SA<HA;lhfOE=OOE;fsp<vd;lhfAA=I=II=U=UU=ofR>RR=vsE=ouE=E=AI=vs",
    "O=ouO=O=AU;fqa;lhfPRISHTHAMATRA E=AW;OM;STRESSfUDATTA=ANUDATTA;niqf;mgqf;lhfvsmoE=UE=UUE;bQA<",
    "KHHA<GHHA<ZA<DDDHA<RHA<FA<YYA<ofRR=LL;lhfofL>LL;rp;kfrp;lumk<kd<kb<ki<km<kq<kz<le<la<li;ucf;f",
    "mvSPACINGkh;bvsA<OE<OOE<AW<UE<UUE<MARWARIoy<ZHA<kuYA<GGA<JJA<rznd<DDDA<BBA:wdANJI;frh<ow<qp"]),
  (0x985, [":wdbA<AA<I<II<U<UU<ofR=L"]),
  (0x98F, [":wdbE<AI"]),
  (0x993, [":wdbO<AU<KA<nn<GA<oz<na<CA<nk<JA<JHA<nl<ox<px<oy<qb<pm<TA<nw<DA<pa<NA"]),
  (0x9AA, [":wdbPA<om<BA<pn<MA<YA<RA"]),
  (0x9B2, [":wdbLA"]),
  (0x9B6, [":wdbnb<py<SA<HA"]),
  (0x9BC, [":wdfsp<vd;lhfAA=I=II=U=UU=ofR>RR"]),
  (0x9C7, [":wdlhfE=AI"]),
  (0x9CB, [":wdlhfO=AU;fqa;bKHANDA TA"]),
  (0x9D7, [":wdAUvykg"]),
  (0x9DC, [":wdbRRA<RHA"]),
  (0x9DF, [":wdbYYA<ofRR=LL;lhfofL>LL"]),
  (0x9E6, [":wdlumk<kd<kb<ki<km<kq<kz<le<la<li;bRAakspk>lxpk;RUPEEkg<f;CURRENCY NUMERATORkd=kb=ki=",
    "km=kdLESS THAN THE DENOMINATOR<DENOMINATOR SIXTEEN;ISSHAR;GANDAkg;bVEDICow;ucf;SANDHIkg"]),
  (0xA01, [":vifADAK BINDI<BINDI<qp"]),
  (0xA05, [":vibA<AA<I<II<U<UU"]),
  (0xA0F, [":vibEE<AI"]),
  (0xA13, [":vibOO<AU<KA<nn<GA<oz<na<CA<nk<JA<JHA<nl<ox<px<oy<qb<pm<TA<nw<DA<pa<NA"]),
  (0xA2A, [":vibPA<om<BA<pn<MA<YA<RA"]),
  (0xA32, [":vibLA<LLA"]),
  (0xA35, [":vibVA<nb"]),
  (0xA38, [":vibSA<HA"]),
  (0xA3C, [":vifsp"]),
  (0xA3E, [":vilhfAA=I=II=U=UU"]),
  (0xA47, [":vilhfEE=AI"]),
  (0xA4B, [":vilhfOO=AU;fqa"]),
  (0xA51, [":vifUDAAT"]),
  (0xA59, [":vibKHHA<GHHA<ZA<RRA"]),
  (0xA5E, [":vibFA"]),
  (0xA66, [":vilumk<kd<kb<ki<km<kq<kz<le<la<li;TIPPI;ADDAK;IRI;URA;EK ONKAR;fYAKASH;ucf"]),
  (0xA81, [":whfrh<ow<qp"]),
  (0xA85, [":whbA<AA<I<II<U<UU<ofR=L;lhvsE"]),
  (0xA8F, [":whbE<AI;lhvsO"]),
  (0xA93, [":whbO<AU<KA<nn<GA<oz<na<CA<nk<JA<JHA<nl<ox<px<oy<qb<pm<TA<nw<DA<pa<NA"]),
  (0xAAA, [":whbPA<om<BA<pn<MA<YA<RA"]),
  (0xAB2, [":whbLA<LLA"]),
  (0xAB5, [":whbVA<nb<py<SA<HA"]),
  (0xABC, [":whfsp<vd;lhfAA=I=II=U=UU=ofR>RR=vsE"]),
  (0xAC7, [":whlhfE=AI=vsO"]),
  (0xACB, [":whlhfO=AU;fqa"]),
  (0xAD0, [":whOM"]),
  (0xAE0, [":whbofRR=LL;lhfofL>LL"]),
  (0xAE6, [":whlumk<kd<kb<ki<km<kq<kz<le<la<li;ucf;RUPEEf"]),
  (0xAF9, [":whbZHA;fSUKUN<SHADDA<MADDAH<THREE-DOTspi<lnspi<TWO-CIRCLEspi"]),
  (0xB01, [":ORIYAfrh<ow<qp"]),
  (0xB05, [":ORIYAbA<AA<I<II<U<UU<ofR=L"]),
  (0xB0F, [":ORIYAbE<AI"]),
  (0xB13, [":ORIYAbO<AU<KA<nn<GA<oz<na<CA<nk<JA<JHA<nl<ox<px<oy<qb<pm<TA<nw<DA<pa<NA"]),
  (0xB2A, [":ORIYAbPA<om<BA<pn<MA<YA<RA"]),
  (0xB32, [":ORIYAbLA<LLA"]),
  (0xB35, [":ORIYAbVA<nb<py<SA<HA"]),
  (0xB3C, [":ORIYAfsp<vd;lhfAA=I=II=U=UU=ofR>RR"]),
  (0xB47, [":ORIYAlhfE=AI"]),
  (0xB4B, [":ORIYAlhfO=AU;fqa"]),
  (0xB55, [":ORIYAfOVERLINE;AIvykg;AUvykg"]),
  (0xB5C, [":ORIYAbRRA<RHA"]),
  (0xB5F, [":ORIYAbYYA<ofRR=LL;lhfofL>LL"]),
  (0xB66, [":ORIYAlumk<kd<kb<ki<km<kq<kz<le<la<li;ISSHAR;bWA;twkdqy=lf<kiwc<kdSIXTEENTH=sf<kiSIXTE",
    "ENTHS"]),
  (0xB82, [":thfow<qp"]),
  (0xB85, [":thbA<AA<I<II<U<UU"]),
  (0xB8E, [":thbE<EE<AI"]),
  (0xB92, [":thbO<OO<AU<KA"]),
  (0xB99, [":thbna<CA"]),
  (0xB9C, [":thbJA"]),
  (0xB9E, [":thbnl<ox"]),
  (0xBA3, [":thbpm<TA"]),
  (0xBA8, [":thbNA<NNNA<PA"]),
  (0xBAE, [":thbMA<YA<RA<RRA<LA<LLA<LLLA<VA<nb<py<SA<HA"]),
  (0xBBE, [":thlhfAA=I=II=U=UU"]),
  (0xBC6, [":thlhfE=EE=AI"]),
  (0xBCA, [":thlhfO=OO=AU;fqa"]),
  (0xBD0, [":thOM"]),
  (0xBD7, [":thAUvykg"]),
  (0xBE6, [":thlumk<kd<kb<ki<km<kq<kz<le<la<li;npmr<kdlg=lq;DAYf;MONTHf;YEARf;DEBITf;CREDITf;ASif;",
    "RUPEEf;npf"]),
  (0xC00, [":xhfpjrhi<rh<ow<qp<pjowi;bA<AA<I<II<U<UU<ofR=L"]),
  (0xC0E, [":xhbE<EE<AI"]),
  (0xC12, [":xhbO<OO<AU<KA<nn<GA<oz<na<CA<nk<JA<JHA<nl<ox<px<oy<qb<pm<TA<nw<DA<pa<NA"]),
  (0xC2A, [":xhbPA<om<BA<pn<MA<YA<RA<RRA<LA<LLA<LLLA<VA<nb<py<SA<HA"]),
  (0xC3C, [":xhfsp<vd;lhfAA=I=II=U=UU=ofR>RR"]),
  (0xC46, [":xhlhfE=EE=AI"]),
  (0xC4A, [":xhlhfO=OO=AU;fqa"]),
  (0xC55, [":xhvykg;AIvykg"]),
  (0xC58, [":xhbTSA<DZA<RRRA"]),
  (0xC5D, [":xhbNAKAARA POLLU"]),
  (0xC60, [":xhbofRR=LL;lhfofL>LL"]),
  (0xC66, [":xhlumk<kd<kb<ki<km<kq<kz<le<la<li"]),
  (0xC77, [":xhfSIDDHAM;twlumkqgODD POWERS OFkm=kdqgODD POWERS OFkm=kbqgODD POWERS OFkm=kiqgODD PO",
    "WERS OFkm=kdqgEVEN POWERS OFkm=kbqgEVEN POWERS OFkm=kiqgEVEN POWERS OFkm;fTUUMU:wifSPACINGrh<",
    "rh<ow<qp<SIDDHAM;bA<AA<I<II<U<UU<ofR=L"]),
  (0xC8E, [":wibE<EE<AI"]),
  (0xC92, [":wibO<OO<AU<KA<nn<GA<oz<na<CA<nk<JA<JHA<nl<ox<px<oy<qb<pm<TA<nw<DA<pa<NA"]),
  (0xCAA, [":wibPA<om<BA<pn<MA<YA<RA<RRA<LA<LLA"]),
  (0xCB5, [":wibVA<nb<py<SA<HA"]),
  (0xCBC, [":wifsp<vd;lhfAA=I=II=U=UU=ofR>RR"]),
  (0xCC6, [":wilhfE=EE=AI"]),
  (0xCCA, [":wilhfO=OO=AU;fqa"]),
  (0xCD5, [":wivykg;AIvykg"]),
  (0xCDD, [":wibNAKAARA POLLU<FA"]),
  (0xCE0, [":wibofRR=LL;lhfofL>LL"]),
  (0xCE6, [":wilumk<kd<kb<ki<km<kq<kz<le<la<li"]),
  (0xCF1, [":wifzp<zs"]),
  (0xD00, [":zcfpjowi<rh<ow<qp;bVEDICow<A<AA<I<II<U<UU<ofR=L"]),
  (0xD0E, [":zcbE<EE<AI"]),
  (0xD12, [":zcbO<OO<AU<KA<nn<GA<oz<na<CA<nk<JA<JHA<nl<ox<px<oy<qb<pm<TA<nw<DA<pa<NA<NNNA<PA<om<BA",
    "<pn<MA<YA<RA<RRA<LA<LLA<LLLA<VA<nb<py<SA<HA<TTTA;fkwlbqa<CIRCULARqa<vd;lhfAA=I=II=U=UU=ofR>R",
    "R"]),
  (0xD46, [":zclhfE=EE=AI"]),
  (0xD4A, [":zclhfO=OO=AU;fqa;bkhREPH;fPARA"]),
  (0xD54, [":zcbCHILLU M=Y=LLL;AUvykg;twkdONE-HUNDRED-AND-SIXTIETH=FORTIETH<kiEIGHTIETHS<kdTWENTIE",
    "TH=TENTH<kiTWENTIETHS<kdFIFTH;btuII<ofRR=LL;lhfofL>LL"]),
  (0xD66, [":zclumk<kd<kb<ki<km<kq<kz<le<la<li;npmr<kdlg=lq;twkdqy=lf<kiwc<kdSIXTEENTH=sf<kiSIXTEE",
    "NTHS;DATEkg;bCHILLU NN=N=RR=L=LL=K"]),
  (0xD81, [":xdfrh<ANUSVARAYA<VISARGAYA"]),
  (0xD85, [":xdbAYANNA<AAYANNA<AEYANNA<AEEYANNA<IYANNA<IIYANNA<UYANNA<UUYANNA<IRUYANNA<IRUUYANNA<I",
    "LUYANNA<ILUUYANNA<EYANNA<EEYANNA<AIYANNA<OYANNA<OOYANNA<AUYANNA"]),
  (0xD9A, [":xdbybKAYANNA<ygKAYANNA<ybGAYANNA<ygGAYANNA<KANTAJA NAASIKYAYA<SANYAKA GAYANNA<ybCAYAN",
    "NA<ygCAYANNA<ybJAYANNA<ygJAYANNA<TAALUJA NAASIKYAYA=SANYOOGA NAAKSIKYAYA<SANYAKA JAYANNA<ybTT",
    "AYANNA<ygTTAYANNA<ybDDAYANNA<ygDDAYANNA<MUURDHAJA NAYANNA<SANYAKA DDAYANNA<ybTAYANNA<ygTAYANN",
    "A<ybDAYANNA<ygDAYANNA<DANTAJA NAYANNA"]),
  (0xDB3, [":xdbSANYAKA DAYANNA<ybPAYANNA<ygPAYANNA<ybBAYANNA<ygBAYANNA<MAYANNA<AMBA BAYANNA<YAYAN",
    "NA<RAYANNA"]),
  (0xDBD, [":xdbDANTAJA LAYANNA"]),
  (0xDC0, [":xdbVAYANNA<TAALUJA SAYANNA<MUURDHAJA SAYANNA<DANTAJA SAYANNA<HAYANNA<MUURDHAJA LAYANN",
    "A<FAYANNA"]),
  (0xDCA, [":xdfAL-LAKUNA"]),
  (0xDCF, [":xdlhfAELA-PILLA=KETTI AEDA-PILLA=DIGA AEDA-PILLA=KETTI IS-PILLA=DIGA IS-PILLA=KETTI P",
    "AA-PILLA"]),
  (0xDD6, [":xdlhfDIGA PAA-PILLA"]),
  (0xDD8, [":xdlhfGAETTA-PILLA=KOMBUVA=DIGA KOMBUVA=KOMBU DEKA=KOMBUVA HAA AELA-PILLA?DIGA AELA-PI",
    "LLA?GAYANUKITTA=GAYANUKITTA"]),
  (0xDE6, [":xdLITHlumk=kd=kb=ki=km=kq=kz=le=la=li"]),
  (0xDF2, [":xdlhfDIGA GAETTA-PILLA>GAYANUKITTA;pqKUNDDALIYA"]),
  (0xE01, [":THAIveKO KAI<KHO KHAI=KHUAT=KHWAI=KHON=RAKHANG<NGO NGU<CHO CHAN=CHING=CHANG<SO SO<CHO",
    " CHOE<YO YING<DO CHADA<TO PATAK<THO THAN=NANGMONTHO=PHUTHAO<NO NEN<DO DEK<TO TAO<THO THUNG=TH",
    "AHAN=THONG<NO NU<BO BAIMAI<PO PLA<PHO PHUNG<FO FA<PHO PHAN<FO FAN<PHO SAMPHAO<MO MA<YO YAK<RO",
    " RUA<RU<LO LING<LU<WO WAEN<SO SALA=RUSI=SUA<HO HIP<LO CHULA<O ANG<HO NOKHUK<PAIYANNOI<SARA A<",
    "MAI HAN-AKAT<SARA AA=AM=I=II=UE=UEE=U=UU<PHINTHU"]),
  (0xE3F, [":THAI CURRENCYkpBAHT;veSARA E=AE=O=AI MAIMUAN>MAIMALAI<LAKKHANGYAO<MAIYAMOK<MAITAIKHU<",
    "MAI EK=THO=TRI=CHATTAWA<THANTHAKHAT<NIKHAHIT<YAMAKKAN<FONGMAN;lumk<kd<kb<ki<km<kq<kz<le<la<li",
    ";veANGKHANKHU<KHOMUT"]),
  (0xE81, [":LAObKO<KHO SUNG"]),
  (0xE84, [":LAObKHO TAM"]),
  (0xE86, [":LAObPALIoz<NGO<CO<PALInk<SO TAM"]),
  (0xE8C, [":LAObPALI JHA<NYO<PALInl=ox=px=oy=qb=pm<DO<TO<THO SUNG=TAM<PALIpa<NO<BO<PO<PHO SUNG<FO",
    " TAM<PHO TAM<FO SUNG<PALIpn<MO<YO<LO LING"]),
  (0xEA5, [":LAObLO LOOT"]),
  (0xEA7, [":LAObWO<SANSKRITnb=py<SO SUNG<HO SUNG<PALI LLA<O<HO TAM;ELLIPSIS;lhfA=MAI KAN=AA=AM=I=",
    "II=Y=YY=U=UU;fPALIqa;lhfMAI KON;SEMIVOWELfLO=NYO"]),
  (0xEC0, [":LAOlhfE=EI=O=AY=AI"]),
  (0xEC6, [":LAO KO LA"]),
  (0xEC8, [":LAOmuMAI EK=THO=TI=CATAWA;CANCELLATIONkg;NIGGAHITA"]),
  (0xED0, [":LAOlumk<kd<kb<ki<km<kq<kz<le<la<li"]),
  (0xEDC, [":LAO HO NO<MO;bKHMU GO=NYO"]),
  (0xF00, [":TIBETANojOM;kgGTER YIG MGO TRUNCATED A?-UM RNAM BCAD MA?-UM GTER TSHEG MA<krYIG MGO M",
    "DUN MA<CLOSING YIG MGO SGAB MA<CARET YIG MGO PHUR SHAD MA<YIG MGO TSHEG SHAD MA<SBRUL SHAD<BS",
    "KUR YIG MGO<BKA- SHOG YIG MGO<INTERSYLLABIC TSHEG<DELIMITER TSHEG BSTAR<SHAD<NYIS SHAD<TSHEG ",
    "SHAD<NYIS TSHEG SHAD<RIN CHEN SPUNGS SHAD<RGYA GRAM SHAD<CARET -DZUD RTAGS MEmoCAN<GTER TSHEG",
    ";LOGOTYPEfCHAD RTAGS=LHAG RTAGS;ASTROLOGICALfSGRA GCAN -CHAR RTAGS=-KHYUD PA=SDONG TSHUGS;fRD",
    "EL DKAR GCIG>GNYIS>GSUM=NAG GCIG>GNYIS=DKAR RDEL NAG;lumk<kd<kb<ki<km<kq<kz<le<la<li<lfkd=kb=",
    "ki=km=kq=kz=le=la=li=mk;kgBSDUS RTAGS<NGAS BZUNG NYI ZLA<CARET -DZUD RTAGS BZHI MIG CAN<NGAS ",
    "BZUNG SGOR RTAGS<CHE MGO<TSA -PHRU<GUG RTAGS GYON>GYAS<ANG KHANG GYON>GYAS;fYAR TSHES<MAR TSH",
    "ES;bKA<nn<GA<oz<na<CA<nk<JA"]),
  (0xF49, [":TIBETANbnl<ox<px<oy<qb<pm<TA<nw<DA<pa<NA<PA<om<BA<pn<MA<TSA<TSHA<DZA<DZHA<WA<ZHA<ZA<-",
    "A<YA<RA<LA<nb<py<SA<HA<A<KSSA<FIXED-FORM RA<KKA<RRA"]),
  (0xF71, [":TIBETANlhfAA=I=II=U=UU=ofR>RR>L>LL=E=EE=O=OO;fRJES SUnaRO<RNAM BCAD;lhfmyI>II;fNYI ZL",
    "A NAA DA<SNA LDAN;kgHALANTA<PALUTA;fLCI RTAGS<YANG RTAGS<LCE TSA CAN<MCHU CAN<GRU CAN RGYINGS",
    "=MED RGYINGS<nmMCHU CAN;zefLCE TSA CAN=MCHU CAN=nmMCHU CAN<bKA=nn=GA=oz=na=CA=nk=JA"]),
  (0xF99, [":TIBETANzebnl=ox=px=oy=qb=pm=TA=nw=DA=pa=NA=PA=om=BA=pn=MA=TSA=TSHA=DZA=DZHA=WA=ZHA=ZA",
    "=-A=YA=RA=LA=nb=py=SA=HA=A=KSSA=FIXED-FORM WA>YA>RA"]),
  (0xFBE, [":TIBETAN KU RUnn>BZHI MIG CAN;CANTILLATIONfkuBEAT=lwBEAT=CANG TE-U=SBUB -CHAL;kpDRIL B",
    "U<RDO RJE<PADMA GDAN<RDO RJE RGYA GRAM<PHUR PA<NOR BU>NYIS -KHYIL>GSUM -KHYIL>BZHI -KHYIL"]),
  (0xFCE, [":TIBETANfRDEL NAG RDEL DKAR>GSUM;kgBSKA- SHOG GI MGO RGYAN<MNYAM YIG GI MGO RGYAN<NYIS",
    " TSHEG<krBRDA RNYING YIG MGO MDUN MA<CLOSING BRDA RNYING YIG MGO SGAB MA:RIGHT-FACING SVASTIf",
    ":LEFT-FACING SVASTIf:RIGHT-FACING SVASTIfalm:LEFT-FACING SVASTIfalm:TIBETANkgLEADING MCHAN RT",
    "AGS<TRAILING MCHAN RTAGS"]),
  (0x1000, [":MYANMARbKA<nn<GA<oz<na<CA<nk<JA<JHA<nl<NNYA<ox<px<oy<qb<pm<TA<nw<DA<pa<NA<PA<om<BA<p",
    "n<MA<YA<RA<LA<WA<SA<HA<LLA<A<SHAN A<I<II<U<UU<E<MON E<O<AU;lhfTALL AA=AA=I=II=U=UU=E=AI=MON I",
    "I>O=Ei;fow<khkc<qp<qa<ASAT;tbfmiYA>RA>WA>HA;bGREAT SA;lumk<kd<kb<ki<km<kq<kz<le<la<li;folsv<s",
    "v;kpLOCATIVE<COMPLETED<AFOREMENTIONED<GENITIVE;bnb<py<ofR=RR=L=LL;lhfofR>RR>L>LL;bMONna=JHA=B",
    "BA=BBE;tbfMONmiNA?MA?LA;bSGAW KARENnb;lhfSGAW KAREN EU;mukgSGAW KAREN HATHI?KE PHO;bWESTERN P",
    "WO KARENnw?PWA;lhfWESTERN PWO KAREN EU?KAREN UE;fWESTERN PWO KAREN TONE-1@@@@;bEASTERN PWO KA",
    "RENpm?YWA?GHWA;lhfGEBA KAREN I=KAYAH OE>U>EE;bSHAN KA=nn=GA=CA=ZA=nl=DA=NA=om=FA=BA=nw=HA;tbf",
    "SHANmiWA;lhfSHAN AA>E?i>keY;fSHAN TONE-2@=TONE-5@=COUNCIL TONE-2@>EMPHATICmu;bRUMAI PALAUNG F",
    "A;fRUMAI PALAUNG TONE-5;SHANlumk=kd=kb=ki=km=kq=kz=le=la=li;fKHAMTI TONE-1=TONE-3;lhfAITON A>",
    "AI;kpSHANkd=sk:xvebAN=BAN=GAN=DON=EN=VIN=ZEN=TAN=IN=KAN=LAS=MAN=NAR=ON=PAR=ZHAR=RAE=SAN=TAR=U",
    "N=PHAR=KHAR=GHAN=QAR=rr=CHIN=CAN=JIL=CIL=CHAR=XAN=JHAN=HAE=HE=HIE=WE=HAR=HOE"]),
  (0x10C7, [":xvebYN"]),
  (0x10CD, [":xvebAEN"]),
  (0x10D0, [":xvbAN<BAN<GAN<DON<EN<VIN<ZEN<TAN<IN<KAN<LAS<MAN<NAR<ON<PAR<ZHAR<RAE<SAN<TAR<UN<PHAR<",
    "KHAR<GHAN<QAR<rr<CHIN<CAN<JIL<CIL<CHAR<XAN<JHAN<HAE<HE<HIE<WE<HAR<HOE<FI<YN<ELIFI<mqGAN<AIN;P",
    "ARAGRAPHrg:rebxvNAR:xvbAEN<HARDf<LABIALf:ukCHOSEONG KIYEOK<SSANGKIYEOK<NIEUN<TIKEUT<SSANGTIKE",
    "UT<RIEUL<MIEUM<PIEUP<SSANGPIEUP<SIOS<SSANGSIOS<IEUNG<CIEUC<SSANGCIEUC<CHIEUCH<KHIEUKH<THIEUTH",
    "<PHIEUPH<HIEUH<NIEUN-KIYEOK<SSANGNIEUN<NIEUN-TIKEUT<NIEUN-PIEUP<TIKEUT-KIYEOK<RIEUL-NIEUN<SSA",
    "NGRIEUL<RIEUL-HIEUH<KAPYEOUNRIEUL<MIEUM-PIEUP<KAPYEOUNMIEUM<PIEUP-KIYEOK<PIEUP-NIEUN<PIEUP-TI",
    "KEUT<PIEUP-SIOS<PIEUP-SIOS-KIYEOK<PIEUP-SIOS-TIKEUT<PIEUP-SIOS-PIEUP<PIEUP-SSANGSIOS<PIEUP-SI",
    "OS-CIEUC<PIEUP-CIEUC<PIEUP-CHIEUCH<PIEUP-THIEUTH<PIEUP-PHIEUPH<KAPYEOUNPIEUP<KAPYEOUNSSANGPIE",
    "UP<SIOS-KIYEOK<SIOS-NIEUN<SIOS-TIKEUT<SIOS-RIEUL<SIOS-MIEUM<SIOS-PIEUP<SIOS-PIEUP-KIYEOK<SIOS",
    "-SSANGSIOS<SIOS-IEUNG<SIOS-CIEUC<SIOS-CHIEUCH<SIOS-KHIEUKH<SIOS-THIEUTH<SIOS-PHIEUPH<SIOS-HIE",
    "UH<CHITUEUMSIOS<CHITUEUMSSANGSIOS<CEONGCHIEUMSIOS<CEONGCHIEUMSSANGSIOS<PANSIOS<IEUNG-KIYEOK<I",
    "EUNG-TIKEUT<IEUNG-MIEUM<IEUNG-PIEUP<IEUNG-SIOS<IEUNG-PANSIOS<SSANGIEUNG<IEUNG-CIEUC<IEUNG-CHI",
    "EUCH<IEUNG-THIEUTH<IEUNG-PHIEUPH<YESIEUNG<CIEUC-IEUNG<CHITUEUMCIEUC<CHITUEUMSSANGCIEUC<CEONGC",
    "HIEUMCIEUC<CEONGCHIEUMSSANGCIEUC<CHIEUCH-KHIEUKH<CHIEUCH-HIEUH<CHITUEUMCHIEUCH<CEONGCHIEUMCHI",
    "EUCH<PHIEUPH-PIEUP<KAPYEOUNPHIEUPH<SSANGHIEUH<YEORINHIEUH<KIYEOK-TIKEUT<NIEUN-SIOS<NIEUN-CIEU",
    "C<NIEUN-HIEUH<TIKEUT-RIEUL<FILLER;JUNGSEONG FILLER<A<AE<YA<YAE<EO<E<YEO<YE<O<WA<WAE<OE<YO<U<W",
    "EO<WE<WI<YU<EU<YI<I<A-O<A-U<YA-O<YA-YO<EO-O<EO-U<EO-EU<YEO-O<YEO-U<O-EO<O-E<O-YE<O-O<O-U<YO-Y",
    "A<YO-YAE<YO-YEO<YO-O<YO-I<U-A<U-AE<U-EO-EU<U-YE<U-U<YU-A<YU-EO<YU-E<YU-YEO<YU-YE<YU-U<YU-I<EU",
    "-U<EU-EU<YI-U<I-A<I-YA<I-O<I-U<I-EU<I-ARAEA<ARAEA<ARAEA-EO<ARAEA-U<ARAEA-I<SSANGARAEA<A-EU<YA",
    "-U<YEO-YA<O-YA<O-YAE;JONGSEONG KIYEOK<SSANGKIYEOK<KIYEOK-SIOS<NIEUN<NIEUN-CIEUC<NIEUN-HIEUH<T",
    "IKEUT<RIEUL<RIEUL-KIYEOK<RIEUL-MIEUM<RIEUL-PIEUP<RIEUL-SIOS<RIEUL-THIEUTH<RIEUL-PHIEUPH<RIEUL",
    "-HIEUH<MIEUM<PIEUP<PIEUP-SIOS<SIOS<SSANGSIOS<IEUNG<CIEUC<CHIEUCH<KHIEUKH<THIEUTH<PHIEUPH<HIEU",
    "H<KIYEOK-RIEUL<KIYEOK-SIOS-KIYEOK<NIEUN-KIYEOK<NIEUN-TIKEUT<NIEUN-SIOS<NIEUN-PANSIOS<NIEUN-TH",
    "IEUTH<TIKEUT-KIYEOK<TIKEUT-RIEUL<RIEUL-KIYEOK-SIOS<RIEUL-NIEUN<RIEUL-TIKEUT<RIEUL-TIKEUT-HIEU",
    "H<SSANGRIEUL<RIEUL-MIEUM-KIYEOK<RIEUL-MIEUM-SIOS<RIEUL-PIEUP-SIOS<RIEUL-PIEUP-HIEUH<RIEUL-KAP",
    "YEOUNPIEUP<RIEUL-SSANGSIOS<RIEUL-PANSIOS<RIEUL-KHIEUKH<RIEUL-YEORINHIEUH<MIEUM-KIYEOK<MIEUM-R",
    "IEUL<MIEUM-PIEUP<MIEUM-SIOS<MIEUM-SSANGSIOS<MIEUM-PANSIOS<MIEUM-CHIEUCH<MIEUM-HIEUH<KAPYEOUNM",
    "IEUM<PIEUP-RIEUL<PIEUP-PHIEUPH<PIEUP-HIEUH<KAPYEOUNPIEUP<SIOS-KIYEOK<SIOS-TIKEUT<SIOS-RIEUL<S",
    "IOS-PIEUP<PANSIOS<IEUNG-KIYEOK<IEUNG-SSANGKIYEOK<SSANGIEUNG<IEUNG-KHIEUKH<YESIEUNG<YESIEUNG-S",
    "IOS<YESIEUNG-PANSIOS<PHIEUPH-PIEUP<KAPYEOUNPHIEUPH<HIEUH-NIEUN<HIEUH-RIEUL<HIEUH-MIEUM<HIEUH-",
    "PIEUP<YEORINHIEUH<KIYEOK-NIEUN<KIYEOK-PIEUP<KIYEOK-CHIEUCH<KIYEOK-KHIEUKH<KIYEOK-HIEUH<SSANGN",
    "IEUN:qmojHA<HU<HI<HAA<HEE<HE<HO<HOA<LA<LU<LI<LAA<LEE<LE<LO<LWA<HHA<HHU<HHI<HHAA<HHEE<HHE<HHO<",
    "HHWA<MA<MU<MI<MAA<MEE<ME<MO<MWA<SZA<SZU<SZI<SZAA<SZEE<SZE<SZO<SZWA<RA<RU<RI<RAA<REE<RE<RO<RWA",
    "<SA<SU<SI<SAA<SEE<SE<SO<SWA<nb<SHU<SHI<SHAA<SHEE<SHE<SHO<SHWA<QA<QU<QI<QAA<QEE<QE<QO<QOA<QW",
    "A"]),
  (0x124A, [":qmojQWI<QWAA<QWEE<QWE"]),
  (0x1250, [":qmojQHA<QHU<QHI<QHAA<QHEE<QHE<QHO"]),
  (0x1258, [":qmojQHWA"]),
  (0x125A, [":qmojQHWI<QHWAA<QHWEE<QHWE"]),
  (0x1260, [":qmojBA<BU<BI<BAA<BEE<BE<BO<BWA<VA<VU<VI<VAA<VEE<VE<VO<VWA<TA<TU<TI<TAA<TEE<TE<TO<TWA",
    "<CA<CU<CI<CAA<CEE<CE<CO<CWA<XA<XU<XI<XAA<XEE<XE<XO<XOA<XWA"]),
  (0x128A, [":qmojXWI<XWAA<XWEE<XWE"]),
  (0x1290, [":qmojNA<NU<NI<NAA<NEE<NE<NO<NWA<nl<NYU<NYI<NYAA<NYEE<NYE<NYO<NYWA<rzA=U=I=AA=EE=E=O=W",
    "A<KA<KU<KI<KAA<KEE<KE<KO<KOA<KWA"]),
  (0x12B2, [":qmojKWI<KWAA<KWEE<KWE"]),
  (0x12B8, [":qmojKXA<KXU<KXI<KXAA<KXEE<KXE<KXO"]),
  (0x12C0, [":qmojKXWA"]),
  (0x12C2, [":qmojKXWI<KXWAA<KXWEE<KXWE"]),
  (0x12C8, [":qmojWA<WU<WI<WAA<WEE<WE<WO<WOA<PHARYNGEAL A=U=I=AA=EE=E=O"]),
  (0x12D8, [":qmojZA<ZU<ZI<ZAA<ZEE<ZE<ZO<ZWA<ZHA<ZHU<ZHI<ZHAA<ZHEE<ZHE<ZHO<ZHWA<YA<YU<YI<YAA<YEE<Y",
    "E<YO<YOA<DA<DU<DI<DAA<DEE<DE<DO<DWA<oy<DDU<DDI<DDAA<DDEE<DDE<DDO<DDWA<JA<JU<JI<JAA<JEE<JE<JO<",
    "JWA<GA<GU<GI<GAA<GEE<GE<GO<GOA<GWA"]),
  (0x1312, [":qmojGWI<GWAA<GWEE<GWE"]),
  (0x1318, [":qmojGGA<GGU<GGI<GGAA<GGEE<GGE<GGO<GGWAA<nw<THU<THI<THAA<THEE<THE<THO<THWA<nk<CHU<CHI",
    "<CHAA<CHEE<CHE<CHO<CHWA<om<PHU<PHI<PHAA<PHEE<PHE<PHO<PHWA<TSA<TSU<TSI<TSAA<TSEE<TSE<TSO<TSWA<",
    "TZA<TZU<TZI<TZAA<TZEE<TZE<TZO<TZOA<FA<FU<FI<FAA<FEE<FE<FO<FWA<PA<PU<PI<PAA<PEE<PE<PO<PWA<RYA<",
    "MYA<FYA"]),
  (0x135D, [":qmpjGEMINATIONglhvykg<lhvykg<GEMINATIONkg;svkg;WORDSPACE;ovnd;nv;xp;rb;PREFACErb;rwk",
    "g;PARAGRAPHrg;lukd<kb<ki<km<kq<kz<le<la<li;npmr<pz<tn<uh<qx<uy<qv<vu<qk<lg<mrlq"]),
  (0x1380, [":qmojSEBATBEIT MWA<MWI<MWEE<MWE<SEBATBEIT BWA<BWI<BWEE<BWE<SEBATBEIT FWA<FWI<FWEE<FWE",
    "<SEBATBEIT PWA<PWI<PWEE<PWE;TONALkgYIZET=DERET=RIKRIK=ouRIKRIK=DIFAT=KENAT=CHIRET=HIDET=DERET",
    "-HIDET=KURT"]),
  (0x13A0, [":CHEROKEEbA<E<I<O<U<V<GA<KA<GE<GI<GO<GU<GV<HA<HE<HI<HO<HU<HV<LA<LE<LI<LO<LU<LV<MA<ME<",
    "MI<MO<MU<NA<HNA<NAH<NE<NI<NO<NU<NV<QUA<QUE<QUI<QUO<QUU<QUV<SA<S<SE<SI<SO<SU<SV<DA<TA<DE<TE<DI",
    "<TI<DO<DU<DV<DLA<TLA<TLE<TLI<TLO<TLU<TLV<TSA<TSE<TSI<TSO<TSU<TSV<WA<WE<WI<WO<WU<WV<YA<YE<YI<Y",
    "O<YU<YV<MV"]),
  (0x13F8, [":CHEROKEEcbYE=YI=YO=YU=YV=MV"])
]

end MetesBounds.Text.CharName
