import MetesBounds.Text.CharName.Block

/-!
# `Text/CharName/Syllabic` — the names of Canadian syllables, of the scripts from Runic to Vedic,
and of further Latin and Greek letters
-/

set_option autoImplicit false

namespace MetesBounds.Text.CharName

/-- Names of Canadian syllables, of the scripts from Runic to Vedic, and of further Latin and Greek
letters. -/
def syllabic : List Block := [
  (0x1400, [":CANADIAN SYLLABICS HYPHEN<E<AAI<I<II<O<OO<Y-CREE OO<xsEE=I<A<AA<WE<mmWE<WI<mmWI<WII<",
    "mmWII<WO<mmWO<WOO<mmWOO<NASKAPI WOO<WA<mmWA<WAA<mmWAA<NASKAPI WAA<AI<Y-CREE W<rznd<kemg=ni=qz",
    "lfma=pwlfma=jlfma=ma=kfmg>oukwSTROKES=kskh=oulvko=kv=ldqw<EN<IN<ON<AN<PE<PAAI<PI<PII<PO<POO<Y",
    "-CREE POO<xsHEE=HI<PA<PAA<PWE<mmPWE<PWI<mmPWI<PWII<mmPWII<PWO<mmPWO<PWOO<mmPWOO<PWA<mmPWA<PWA",
    "A<mmPWAA<Y-CREE PWAA<P<mmP<xsH<TE<TAAI<TI<TII<TO<TOO<Y-CREE TOO<xsDEE=DI<TA<TAA<TWE<mmTWE<TWI",
    "<mmTWI<TWII<mmTWII<kb<mmkb<TWOO<mmTWOO<TWA<mmTWA<TWAA<mmTWAA<NASKAPI TWAA<T<TTE<TTI<TTO<ox<KE",
    "<KAAI<KI<KII<KO<KOO<Y-CREE KOO<KA<KAA<KWE<mmKWE<KWI<mmKWI<KWII<mmKWII<KWO<mmKWO<KWOO<mmKWOO<K",
    "WA<mmKWA<KWAA<mmKWAA<NASKAPI KWAA<K<KW<SOUTH-SLAVEY KEH=KIH=KOH=KAH<CE<CAAI<CI<CII<CO<COO<Y-C",
    "REE COO<CA<CAA<CWE<mmCWE<CWI<mmCWI<CWII<mmCWII<CWO<mmCWO<CWOO<mmCWOO<CWA<mmCWA<CWAA<mmCWAA<NA",
    "SKAPI CWAA<C<SAYISI TH<ME<MAAI<MI<MII<MO<MOO<Y-CREE MOO<MA<MAA<MWE<mmMWE<MWI<mmMWI<MWII<mmMWI",
    "I<MWO<mmMWO<MWOO<mmMWOO<MWA<mmMWA<MWAA<mmMWAA<NASKAPI MWAA<M<mmM<MH<ATHAPASCAN M<SAYISI M<NE<",
    "NAAI<NI<NII<NO<NOO<Y-CREE NOO<NA<NAA<NWE<mmNWE<NWA<mmNWA<NWAA<mmNWAA<NASKAPI NWAA<N<xsNG<NH<L",
    "E<LAAI<LI<LII<LO<LOO<Y-CREE LOO<LA<LAA<LWE<mmLWE<LWI<mmLWI<LWII<mmLWII<LWO<mmLWO<LWOO<mmLWOO<",
    "LWA<mmLWA<LWAA<mmLWAA<L<mmL<miL<SE<SAAI<SI<SII<SO<SOO<Y-CREE SOO<SA<SAA<SWE<mmSWE<SWI<mmSWI<S",
    "WII<mmSWII<SWO<mmSWO<SWOO<mmSWOO<SWA<mmSWA<SWAA<mmSWAA<NASKAPI SWAA<S<ATHAPASCAN S<SW<BLACKFO",
    "OT S<MOOSE-CREE SK<NASKAPI SKW=S-W=SPWA=STWA=SKWA=SCWA<SHE<SHI<SHII<SHO<SHOO<nb<SHAA<SHWE<mmS",
    "HWE<SHWI<mmSHWI<SHWII<mmSHWII<SHWO<mmSHWO<SHWOO<mmSHWOO<SHWA<mmSHWA<SHWAA<mmSHWAA<SH<YE<YAAI<",
    "YI<YII<YO<YOO<Y-CREE YOO<YA<YAA<YWE<mmYWE<YWI<mmYWI<YWII<mmYWII<YWO<mmYWO<YWOO<mmYWOO<YWA<mmY",
    "WA<YWAA<mmYWAA<NASKAPI YWAA<Y<BIBLE-CREE Y<mmY<SAYISI YI<RE<R-CREE RE<mmLE<RAAI<RI<RII<RO<ROO",
    "<mmLO<RA<RAA<mmLA<RWAA<mmRWAA<R<mmR<miR<FE<FAAI<FI<FII<FO<FOO<FA<FAA<FWAA<mmFWAA<F<THE<N-CREE",
    " THE<THI<N-CREE THI<THII<N-CREE THII<THO<THOO<nw<THAA<THWAA<mmTHWAA<TH<TTHE<TTHI<TTHO<px<TTH<",
    "TYE<TYI<TYO<TYA<NUNAVIK HE=HI=HII=HO=HOO=HA=HAA=H<NUNAVUT H<HK<QAAI<QI<QII<QO<QOO<QA<QAA<Q<TL",
    "HE<TLHI<TLHO<TLHA<mmRE=RI=RO=RA<NGAAI<NGI<NGII<NGO<NGOO<na<NGAA<NG<NNG<SAYISI SHE=SHI=SHO=nb<",
    "WOODS-CREE THE=THI=THO=nw=TH<LHI<LHII<LHO<LHOO<LHA<LHAA<LH<TH-CREE THE=THI=THII=THO=THOO=nw=T",
    "HAA=TH<AIVILIK B<BLACKFOOT E=I=O=A=WE=WI=WO=WA=NE=NI=NO=NA=KE=KI=KO=KA<SAYISI HE=HI=HO=HA<xsG",
    "HU=GHO=GHE=GHEE=GHI=oz=RU=RO=RE=REE=RI=RA=WU=WO=WE=WEE=WI=WA=HWU=HWO=HWE=HWEE=HWI=HWA=THU=THO",
    "=THE=THEE=THI=nw=TTU=TTO=TTE=TTEE=TTI=ox=PU=PO=PE=PEE=PI=PA=P=GU=GO=GE=GEE=GI=GA=KHU=KHO=KHE=",
    "KHEE=KHI=nn=KKU=KKO=KKE=KKEE=KKI=KKA=KK=NU=NO=NE=NEE=NI=NA=MU=MO=ME=MEE=MI=MA=YU=YO=YE=YEE=YI",
    "=YA=JU<SAYISI JU<xsJO=JE=JEE=JI<SAYISI JI<xsJA=JJU=JJO=JJE=JJEE=JJI=JJA=LU=LO=LE=LEE=LI=LA=DL",
    "U=DLO=DLE=DLEE=DLI=DLA=LHU=LHO=LHE=LHEE=LHI=LHA=TLHU=TLHO=TLHE=TLHEE=TLHI=TLHA=TLU=TLO=TLE=TL",
    "EE=TLI=TLA=ZU=ZO=ZE=ZEE=ZI=ZA=Z=krZ=DZU=DZO=DZE=DZEE=DZI=DZA=SU=SO=SE=SEE=SI=SA=SHU=SHO=SHE=S",
    "HEE=SHI=nb=SH=TSU=TSO=TSE=TSEE=TSI=TSA=CHU=CHO=CHE=CHEE=CHI=nk=TTSU=TTSO=TTSE=TTSEE=TTSI=TTSA",
    "<CHIf<ovnd<QAI<NGAI<NNGI<NNGII<NNGO<NNGOO<NNGA<NNGAA<WOODS-CREE THWEE=THWI=THWII=THWO=THWOO=T",
    "HWA=THWAA=keTH<BLACKFOOT W:OGHAMtmkg;bBEITH<LUIS<FEARN<SAIL<NION<UATH<DAIR<TINNE<COLL<CEIRT<M",
    "UIN<GORT<NGEADAL<STRAIF<RUIS<AILM<ONN<UR<EADHADH<IODHADH<EABHADH<OR<UILLEANN<IFIN<EAMHANCHOLL",
    "<PEITH;FEATHERkg;myFEATHERkg"]),
  (0x16A0, [":RUNICbFEHU FEOH FE F<V<URUZ UR U<YR<Y<W<THURISAZ THURS THORN<ETH<ANSUZ A<OS O<AC A<A",
    "ESC<LONG-BRANCH-OSS O<SHORT-TWIG-OSS O<O<OE<ON<RAIDO RAD REID R<KAUNA<CEN<KAUN K<G<ENG<GEBO G",
    "YFU G<GAR<WUNJO WYNN W<HAGLAZ H<HAEGL H<LONG-BRANCH-HAGALL H<SHORT-TWIG-HAGALL H<NAUDIZ NYD N",
    "AUD N<SHORT-TWIG-NAUD N<DOTTED-N<ISAZ IS ISS I<E<JERAN J<GER<LONG-BRANCH-AR AE<SHORT-TWIG-AR ",
    "A<IWAZ EOH<PERTHO PEORTH P<ALGIZ EOLHX<SOWILO S<SIGEL LONG-BRANCH-SOL S<SHORT-TWIG-SOL S<C<Z<",
    "TIWAZ TIR TYR T<SHORT-TWIG-TYR T<D<BERKANAN BEORC BJARKAN B<SHORT-TWIG-BJARKAN B<DOTTED-P<OPE",
    "N-P<EHWAZ EH E<MANNAZ MAN M<LONG-BRANCH-MADR M<SHORT-TWIG-MADR M<LAUKAZ LAGU LOGR L<DOTTED-L<",
    "INGWAZ<ING<DAGAZ DAEG D<OTHALAN ETHEL O<EAR<IOR<CWEORTH<CALC<CEALC<STAN<LONG-BRANCH-YR<SHORT-",
    "TWIG-YR<ICELANDIC-YR<Q<X;ncpq;wxpq;phpq;ARLAUGkp;TVIMADURkp;BELGTHORkp;bK<SH<OO<FRANKS CASKET",
    " OS>IS>EH>AC>AESC"]),
  (0x1700, [":TAGALOGbA<I<U<KA<GA<na<TA<DA<NA<PA<BA<MA<YA<RA<LA<WA<SA<HA;lhfI=U;fqa<PAMUDPOD"]),
  (0x171F, [":TAGALOGbtuRA:HANUNOObA<I<U<KA<GA<na<TA<DA<NA<PA<BA<MA<YA<RA<LA<WA<SA<HA;lhfI=U;fPAMU",
    "DPOD:PHILIPPINEncpq;kfpq"]),
  (0x1740, [":BUHIDbA<I<U<KA<GA<na<TA<DA<NA<PA<BA<MA<YA<RA<LA<WA<SA<HA;lhfI=U"]),
  (0x1760, [":TAGBANWAbA<I<U<KA<GA<na<TA<DA<NA<PA<BA<MA<YA"]),
  (0x176E, [":TAGBANWAbLA<WA<SA"]),
  (0x1772, [":TAGBANWAlhfI=U"]),
  (0x1780, [":KHMERbKA<nn<KO<KHO<NGO<CA<nk<CO<CHO<NYO<DA<px<DO<TTHO<NNO<TA<nw<TO<THO<NO<BA<om<PO<P",
    "HO<MO<YO<RO<LO<VO<nb<SSO<SA<HA<LA<QA;yylhQAQ=QAA=QI=QII=QU=QUK=QUU=QUUV=RY=RYY=LY=LYY=QE=QAI=",
    "QOO TYPEkd?kb=QAU;lhINHERENT AQ=AA<fAA=I=II=Y=YY=U=UU=UA=OE=YA=IE=E=AE=AI=OO=AU;fNIKAHIT<REAH",
    "MUK<YUUKALEAPINTU<MUUSIKATOAN<TRIISAP<BANTOC<ROBAT<TOANDAKHIAT<KAKABAT<AHSDA<SAMYOK SANNYA<VI",
    "RIAM<COENG<BATHAMASAT<KHAN<BARIYOOSAN<CAMNUC PII KUUH<LEK TOO<BEYYAL<PHNAEK MUAN<KOOMUUT;CURR",
    "ENCYkpRIEL;fAVAKRAHASANYA<ATTHACAN"]),
  (0x17E0, [":KHMERlumk<kd<kb<ki<km<kq<kz<le<la<li"]),
  (0x17F0, [":KHMERkpLEK ATTAK SON>MUOY>PII>BEI>BUON>PRAM>PRAM-MUOY>PRAM-PII>PRAM-BEI>PRAM-BUON"]),
  (0x1800, [":MONGOLIAN BIRGA;ELLIPSIS;nv;ovnd;rb;kmlm;TODO SOFT HYPHEN;SIBEojBOUNDARY MARKER;MANC",
    "HUnv<ovnd;NIRUGU;FREE VARIATION SELECTORkd>kb>ki;lhrg;FREE VARIATION SELECTORkm;lumk<kd<kb<ki",
    "<km<kq<kz<le<la<li"]),
  (0x1820, [":MONGOLIANbA<E<I<O<U<OE<UE<EE<NA<ANG<BA<PA<QA<GA<MA<LA<SA<nb<TA<DA<nk<JA<YA<RA<WA<FA<",
    "KA<nn<TSA<ZA<HAA<ZRA<LHA<ZHI<CHI<TODOmolhf=E=I=O=U=OE=UE=ANG=BA=PA=QA=GA=MA=TA=DA=nk=JA=TSA=Y",
    "A=WA=KA=GAA=HAA=JIA=NIA=DZA<SIBE E=I=IY=UE=U=ANG=KA=GA=HA=PA=nb=TA=DA=JA=FA=GAA=HAA=TSA=ZA=RA",
    "A=nk=ZHA<MANCHU I=KA=RA=FA=ZHA<nkakblm"]),
  (0x1880, [":MONGOLIANbALI GALIowkd>qpkd>DAMARU>UBADAMA>nmUBADAMA>BALUDA>kiBALUDA>A>I>KA>na>CA>ox",
    ">px>oy>pm>TA>DA>PA>om>py>ZHA>ZA>AH<TODO ALI GALI TA?ZHA<MANCHU ALI GALIoz?na?CA?JHA?ox?qb?TA?",
    "pa?py?CYA?ZHA?ZA<ALI GALIlfU?YA<MANCHU ALI GALIpn<ALI GALI DAGALGA<MANCHU ALI GALI LHA"]),
  (0x18B0, [":CANADIAN SYLLABICS OY<AY<AAY<WAY<POY<PAY<PWOY<TAY<KAY<KWAY<MAY<NOY<NAY<LAY<SOY<SAY<S",
    "HOY<SHAY<SHWOY<YOY<YAY<RAY<NWI<OJIBWAY NWI<NWII<OJIBWAY NWII<NWO<OJIBWAY NWO<NWOO<OJIBWAY NWO",
    "O<RWEE<RWI<RWII<RWO<RWOO<RWA<OJIBWAY P=T=K=C=M=N=S=SH<EASTERN W<WESTERN W<kecma=smkh<R-CREE R",
    "WE<mmLOO=LAA<THWE<THWA<TTHWE<TTHOO<TTHAA<TLHWE<TLHOO<SAYISI SHWE=SHOO=HOO<xsGWU=DENE GEE=GAA=",
    "GWA<SAYISI JUU<xsJWA<BEAVER DENE L>R<xsDENTAL S"]),
  (0x1900, [":LIMBU VOWEL-CARRIERb;bKA<nn<GA<oz<na<CA<nk<JA<JHA<YAN<TA<nw<DA<pa<NA<PA<om<BA<pn<MA<",
    "YA<RA<LA<WA<nb<py<SA<HA<GYAN<TRA"]),
  (0x1920, [":LIMBUlhfA=I=U=EE=AI=OO=AU=E=O;zebYA=RA=WA"]),
  (0x1930, [":LIMBUcbKA=na=ow=TA=NA=PA=MA=RA=LA;fMUKPHRENG<KEMPHRENG<SA-I"]),
  (0x1940, [":LIMBUfLOO"]),
  (0x1944, [":LIMBUskkg;rwkg;lumk<kd<kb<ki<km<kq<kz<le<la<li:TAI LEbKA=XA=na=TSA=SA=YA=TA=nw=LA=PA",
    "=om=MA=FA=VA=HA=QA=nn=TSHA=NA=A=I=EE=EH=U=OO=O=UE=E=AUE=AI"]),
  (0x1970, [":TAI LEbTONE-2@@@@"]),
  (0x1980, [":NEW TAI LUEbmvQA>mcQA>mvKA?XA?na>mcKA?XA?na>mvTSA?SA?YA>mcTSA?SA?YA>mvTA?nw?NA>mcTA?",
    "nw?NA>mvPA?om?MA>mcPA?om?MA>mvFA?VA?LA>mcFA?VA?LA>mvHA?DA?BA>mcHA?DA?BA>mvKVA?XVA>mcKVA?XVA>m",
    "vSUA>mcSUA"]),
  (0x19B0, [":NEW TAI LUElhflhSHORTENER?AA?II?U?UU?E?AE?O?OA?UE?AY?AAY?UY?OY?OAY?UEY?IY=bkeV?NG?N?",
    "M?K?D?B=muMARK-1@"]),
  (0x19D0, [":NEW TAI LUElumk>kd>kb>ki>km>kq>kz>le>la>li=THAMlukd"]),
  (0x19DE, [":NEW TAI LUEfLAE>LAEV:KHMERkpPATHAMASAT<MUOY KOET<PII KOET<BEI KOET<BUON KOET<PRAM KO",
    "ET<PRAM-MUOY KOET<PRAM-PII KOET<PRAM-BEI KOET<PRAM-BUON KOET<DAP KOET<DAP-MUOY KOET<DAP-PII K",
    "OET<DAP-BEI KOET<DAP-BUON KOET<DAP-PRAM KOET<TUTEYASAT<MUOY ROC<PII ROC<BEI ROC<BUON ROC<PRAM",
    " ROC<PRAM-MUOY ROC<PRAM-PII ROC<PRAM-BEI ROC<PRAM-BUON ROC<DAP ROC<DAP-MUOY ROC<DAP-PII ROC<D",
    "AP-BEI ROC<DAP-BUON ROC<DAP-PRAM ROC:BUGINESEbKA<GA<na<NGKA<PA<BA<MA<MPA<TA<DA<NA<NRA<CA<JA<n",
    "l<NYCA<YA<RA<LA<VA<SA<A<HA;lhfI=U=E=O=AE"]),
  (0x1A1E, [":BUGINESE PALLAWA;END OFsv:TAI THAMbmvKA>nn>KXA=mcKA>KXA>nn=na=mvCA>nk=mcCA>SA>nk=nl=",
    "RATA=mvRATHA=DA=mcRATHA=RANA=mvTA>nw=mcTA>nw=NA=BA=mvPA>om>FA=mcPA>FA>om=MA=mcYA=mvYA=RA=RUE=",
    "LA=LUE=WA=mvnb>py>SA>HA=LLA=A=mcHA=I=II=U=UU=EE=OO=LAE=GREAT SA<tbfmiRA?LA>LA TANG LAI<fMAI K",
    "ANG LAI<tbfkena>mcPA>mvRATHA ORmcPA>MA>BA>SA"]),
  (0x1A60, [":TAI THAMfSAKOT<lhfA>MAI SAT>AA>TALL AA>I>II>UE>UUE>U>UU>O>OAkc>OY>E>AE>OO>AI>THAM AI",
    ">OAi<fMAI KANG=TONE-1@=KHUEN TONE-3@@=RA HAAM=MAI SAM=KHUEN-LUE KARAN"]),
  (0x1A7F, [":TAI THAMpjylkh<HORAlumk>kd>kb>ki>km>kq>kz>le>la>li"]),
  (0x1A90, [":TAI THAM THAMlumk>kd>kb>ki>km>kq>kz>le>la>li"]),
  (0x1AA0, [":TAI THAMfWIANG=WIANGWAAK=SAWAN=KEOW=HOY=DOKMAI=mynrRANA=MAI YAMOK=KAAN=KAANKUU=SATKA",
    "AN=SATKAANKUU=HANG=CAANG"]),
  (0x1AB0, [":pjDOUBLEDmsqf;DIAERESIS-RING;INFINITY;lzh;pfkh;X-Xkc;WIGGLYmwkc;mpkgkc;kfmpkgkc;lwCE",
    "NTRALIZATIONkokc;STRONG CENTRALIZATIONkokc;PARENTHESESi;kfPARENTHESESi;PARENTHESESkc<te;ogcbW",
    "kc>mqWkc;kaptika;jptij;kaptkcka;jptkcj;llBRACKETSi;npfi;nmkfARCHi;kvfi;kfkvfi>kc;pfmgqf;ogcbu",
    "lG?R?T"]),
  (0x1B00, [":BALINESEfULU RICEM=vs<CECEK<SURANG<BISAH;bAKARA=TEDUNG<IKARA=TEDUNG<UKARA=TEDUNG<RA ",
    "REPA>TEDUNG<LA LENGA>TEDUNG<EKARA<AIKARA<OKARA=TEDUNG<KA=zb<GA=GORA<na<CA=LACA<JA=JERA<nl<TA ",
    "LATIK=MURDAzb<DA MURDA ALPAPRANA>zb<NA RAMBAT<TA=TAWA<DA=MADU<NA<PA=KAPAL<BA=KEMBANG<MA<YA<RA",
    "<LA<WA<SA SAGA=SAPA=<HA;fREREKAN;lhfTEDUNG=ULU>SARI=SUKU>ILUT=RA REPA?TEDUNG=LA LENGA?TEDUNG=",
    "TALING>REPA>TEDUNG>REPA TEDUNG=PEPET>TEDUNG;ADEG ADEG;bKAF SASAK<KHOT SASAK<TZIR SASAK<EF SAS",
    "AK<VE SASAK<ZAL SASAK<ASYURA SASAK<tuJNYA"]),
  (0x1B50, [":BALINESElumk<kd<kb<ki<km<kq<kz<le<la<li;PANTI;PAMADA;WINDU;CARIK PAMUNGKAH<SIKI<PARE",
    "REN;PAMENENG;wkkpDONG=DENG=DUNG=DANG>SURANG=DING=DAENG=DEUNG=DAING=DANG GEDE=pjTEGEH>ENDEP>KE",
    "MPUL>KEMPLI>JEGOGAN>KEMPULaJEGOGAN>KEMPLIaJEGOGAN>BENDE>GONG=RIGHT-HANDmpDUG?DAG>qqTUK?TAK=LE",
    "FT-HANDmpPANG?PUNG>qqPLAK?PLUK>mpPING;PANTI LANTANG;PAMADA LANTANG"]),
  (0x1B80, [":SUNDANESEfPANYECEK<PANGLAYAR<PANGWISAD;bA<I<U<AE<O<E<EU<KA<QA<GA<na<CA<JA<ZA<nl<TA<D",
    "A<NA<PA<FA<VA<BA<MA<YA<RA<LA<WA<SA<XA<HA;tbfPAMINGKAL=PANYAKRA=PANYIKU;lhfPANGHULU=PANYUKU=PA",
    "NAELAENG=PANOLONG=PAMEPET=PANEULEUNG;fPAMAAEH<qa;tbfPASANGAN MA>WA;bnn<SYA;lumk<kd<kb<ki<km<k",
    "q<kz<le<la<li;vd;bREU<LEU<pn<keK=M:BATAKbA<xzA<HA<xzHA<MANDAILING HA<BA<KARO BA<PA<xzPA<NA<MA",
    "NDAILING NA<WA<xzWA<PAKPAK WA<GA<xzGA<JA<DA<RA<xzRA<MA<xzMA<SOUTHERN TA<NORTHERN TA<SA<xzSA<M",
    "ANDAILING SA<YA<xzYA<na<LA<xzLA<nl<CA<NDA<MBA<I<U;fTOMPI;lhfE=PAKPAK E=EE=I=KARO I=O=KARO O=U",
    ">qgxzSA;tbfNG=H;PANGOLAT;PANONGONAN"]),
  (0x1BFC, [":BATAKkpBINDU NA METEK=PINARBORAS=JUDUL=PANGOLAT:LEPCHAbKA<KLA<nn<GA<GLA<na<CA<nk<JA<",
    "nl<TA<nw<DA<NA<PA<PLA<om<FA<FLA<BA<BLA<MA<MLA<TSA<TSHA<DZA<YA<RA<LA<HA<HLA<VA<SA<nb<WA<A;zebY",
    "A=RA;lhfAA=I=O=OO=U=UU=E;tbfK=M=L=N=P=R=T=NYIN-DO=KANG;fRAN<sp"]),
  (0x1C3B, [":LEPCHApqTA-ROL<NYET THYOOM TA-ROL<CER-WA<TSHOOK CER-WA=;lumk<kd<kb<ki<km<kq<kz<le<la",
    "<li"]),
  (0x1C4D, [":LEPCHAbox<px<oy:OL CHIKIlumk=kd=kb=ki=km=kq=kz=le=la=li<bLA=AT=AG=ANG=AL=LAA=AAK=AAJ",
    "=AAM=AAW=LI=IS=IH=INY=IR=LU=UC=UD=UNN=UY=LE=EP=EDD=EN=ERR=LO=OTT=OB=OV=OH<MU TTUDDAG<GAAHLAA ",
    "TTUDDAAG<MU-GAAHLAA TTUDDAAG<RELAA<PHAARKAA<AHAD<pqMUCAAD=kfMUCAAD:wfcbROUNDED VE=LONG-LEGGED",
    " DE=NARROW O=WIDE ES=TALL TE=THREE-LEGGED TE=TALL HARDf>YAT=UNBLENDED UK"]),
  (0x1C90, [":xvMTAVRULIebAN>BAN>GAN>DON>EN>VIN>ZEN>TAN>IN>KAN>LAS>MAN>NAR>ON>PAR>ZHAR>RAE>SAN>TAR",
    ">UN>PHAR>KHAR>GHAN>QAR>rr>CHIN>CAN>JIL>CIL>CHAR>XAN>JHAN>HAE>HE>HIE>WE>HAR>HOE>FI>YN>ELIFI>mq",
    "GAN>AIN"]),
  (0x1CBD, [":xvMTAVRULIebAEN>HARDf>LABIALf:SUNDANESEpqBINDU SURYA=PANGLONG=PURNAMA=CAKRA=LEU SATA",
    "NGA=KA SATANGA=DA SATANGA=BA SATANGA"]),
  (0x1CD0, [":VEDICmuKARSHANA<SHARA<PRENKHA;fNIHSHVASA<YAJURVEDIC MIDLINE SVARITA;muYAJURVEDIC AGG",
    "RAVATEDyySVARITA=yySVARITA=KATHAKAyySVARITA<vskc<YAJURVEDIC KATHAKAyySVARITA SCHROEDER<kfSVAR",
    "ITA<pfSVARITA<KATHAKA ANUDATTA<khkc<kblmkc<kilmkc<RIGVEDIC KASHMIRIyySVARITA<ATHARVAVEDICyySV",
    "ARITA;fqpSVARITA=UDATTA<myqpUDATTA<qpANUDATTA<myqpANUDATTA<qpUDATTAaon=ANUDATTAaon<owANTARGOM",
    "UKHA=BAHIRGOMUKHA=VAMAGOMUKHA>aon<TIRYAK<HEXIFORMmoow<moow<RTHANGmoow<owUBHAYATO MUKHA<ARDHAV",
    "ISARGA<nrARDHAVISARGA;muvsi;fzp<zs<ATIKRAMA;mumai<kfmai;fkfowANTARGOMUKHA"]),
  (0x1D00, [":ogbceA>AE;cbmqAE;bceBARRED B>C>D>ETH>E;cbmqmpE>I;bceJ>K>Lako>M>myN>O>mpO;cbyqO>mpO>O",
    "ako=mqOE;bceOU;cbpwlfO=qzlfO;bceP>myR>mqR>T>U;cbyqU>DIAERESIZED U>mqM;bceV>W>Z>EZH<VOICED LAR",
    "YNGEAL SPIRANT<AIN:plbceti>LAMDA>PI>RHO>PSI:wfbceEL:rebeA=AE=B=BARRED B=D=E=myE=G=H=I=J=K=L=M",
    "=N=myN=O=OU=P=R=T=U=W<cA=mqA=qt=mqAE=B=D=E=SCHWA=mpE=mqmpE=G=mqI=K=M=ENG=O=mpO=pwlfO=qzlfO=P=",
    "T=U=yqU=mqM=V=AIN=BETA=plti=ts=plPHI=CHI:ogSUBSCRIPTcbI>R>U>V:plSUBSCRIPTcbBETA>ti>RHO>PHI>CH",
    "I:ogcbUE=Baksly=Daksly=Faksly=Maksly=Naksly=Paksly=Raksly?FISHHOOKgksly=Saksly=Taksly=Zaksly=",
    "mqG:rebwfEN:ogcbulG=THaSTRIKETHROUGH<ebIako<brdako=Pako<ebUako<brmako=Barvkn=Darvkn=Farvkn=Ga",
    "rvkn=Karvkn=Larvkn=Marvkn=Narvkn=Parvkn=Rarvkn=Sarvkn=ESHarvkn=Varvkn=Xarvkn=Zarvkn=Aapukn=qt",
    "apukn=Dakngon=Eapukn=mpEapukn=mympEapukn=SCHWAapukn=Iapukn=mpOapukn=ESHapukn=Uapukn=EZHapukn:",
    "rebcmqqt=C>aCURL=ETH=mympE=F=vgJako=rfG=mqH=Iako=rd=eI?ako=Jayk=Lapukn?rvkn=eL=Makn=mqMamoLEG",
    "=Nakakn?pukn=eN=BARRED O=PHI=Sakn=ESH=Tarvkn=Ulb=rm=eU=Vakn=mqV=Z>apukn?CURL=EZH=sq:pjqeniqf<",
    "mgqf;SNAKEkc;SUSPENSIONkg;MACRON-ACUTE;GRAVE-MACRON;MACRON-GRAVE;ACUTE-MACRON;GRAVE-ACUTE-GRA",
    "VE;ACUTE-GRAVE-ACUTE;ogcbRkc;BREVE-MACRON;MACRON-BREVE;kfmsi;wai;ZIGZAGkc;ISkc;URi;USi;ogcbFL",
    "ATTENEDmpAi>AE>AO>AV>Crs>ulD>ETH>G<bceG<cbK>L<bceL?M<cbN<bceN?R<cbR ROTUNDA>S>moS>Z>qt>B>BETA",
    ">SCHWA>F>Lakfksly>OalwCENTRALIZATIONko>P>ESH>UalwCENTRALIZATIONko>W>Aamz>Oamz>Uamz;UPqwi;KAVY",
    "KAij=ka;khika;WIDEnmBRIDGEkc;khkcka;DELETIONkg;kfnmohkc;vcltTOkc;kanfi;jnfgldnfkc:ogebAamakc;",
    "cbAamakc;ebBakhi;cbBakhi;ebBakhkc;cbBakhkc;ebBamwkc;cbBamwkc;ebCarsgmg;cbCarsgmg;ebDakhi;cbDa",
    "khi;ebDakhkc;cbDakhkc;ebDamwkc;cbDamwkc;ebDars;cbDars;ebDamskc;cbDamskc;ebEanogni;cbEanogni;e",
    "bEanogmg;cbEanogmg;ebEamskc;cbEamskc;ebEalykc;cbEalykc;ebEarsgoh;cbEarsgoh;ebFakhi;cbFakhi;eb",
    "Gano;cbGano;ebHakhi;cbHakhi;ebHakhkc;cbHakhkc;ebHamz;cbHamz;ebHars;cbHars;ebHaohkc;cbHaohkc;e",
    "bIalykc;cbIalykc;ebIamzgmg;cbIamzgmg;ebKamg;cbKamg;ebKakhkc;cbKakhkc;ebKamwkc;cbKamwkc;ebLakh",
    "kc;cbLakhkc;ebLakhkcgno;cbLakhkcgno;ebLamwkc;cbLamwkc;ebLamskc;cbLamskc;ebMamg;cbMamg;ebMakhi",
    ";cbMakhi;ebMakhkc;cbMakhkc;ebNakhi;cbNakhi;ebNakhkc;cbNakhkc;ebNamwkc;cbNamwkc;ebNamskc;cbNam",
    "skc;ebOalygmg;cbOalygmg;ebOalygmz;cbOalygmz;ebOanogni;cbOanogni;ebOanogmg;cbOanogmg;ebPamg;cb",
    "Pamg;ebPakhi;cbPakhi;ebRakhi;cbRakhi;ebRakhkc;cbRakhkc;ebRakhkcgno;cbRakhkcgno;ebRamwkc;cbRam",
    "wkc;ebSakhi;cbSakhi;ebSakhkc;cbSakhkc;ebSamggkhi;cbSamggkhi;ebSapigkhi;cbSapigkhi;ebSakhkcgkh",
    "i;cbSakhkcgkhi;ebTakhi;cbTakhi;ebTakhkc;cbTakhkc;ebTamwkc;cbTamwkc;ebTamskc;cbTamskc;ebUamzkc",
    ";cbUamzkc;ebUalykc;cbUalykc;ebUamskc;cbUamskc;ebUalygmg;cbUalygmg;ebUanogmz;cbUanogmz;ebValy;",
    "cbValy;ebVakhkc;cbVakhkc;ebWani;cbWani;ebWamg;cbWamg;ebWamz;cbWamz;ebWakhi;cbWakhi;ebWakhkc;c",
    "bWakhkc;ebXakhi;cbXakhi;ebXamz;cbXamz;ebYakhi;cbYakhi;ebZams;cbZams;ebZakhkc;cbZakhkc;ebZamwk",
    "c;cbZamwkc=Hamwkc=Tamz=Wamai=Yamai=Aajlfma=moSakhi?apkko?amvko;ebSHARP S;cbts;ebAakhkc;cbAakh",
    "kc;ebAakni;cbAakni;ebAamsgmg;cbAamsgmg;ebAamsgni;cbAamsgni;ebAamsgkni;cbAamsgkni;ebAamsgly;cb",
    "Aamsgly;ebAamsgkhkc;cbAamsgkhkc;ebAaohgmg;cbAaohgmg;ebAaohgni;cbAaohgni;ebAaohgkni;cbAaohgkni",
    ";ebAaohgly;cbAaohgly;ebAaohgkhkc;cbAaohgkhkc;ebEakhkc;cbEakhkc;ebEakni;cbEakni;ebEaly;cbEaly;",
    "ebEamsgmg;cbEamsgmg;ebEamsgni;cbEamsgni;ebEamsgkni;cbEamsgkni;ebEamsgly;cbEamsgly;ebEamsgkhkc",
    ";cbEamsgkhkc;ebIakni;cbIakni;ebIakhkc;cbIakhkc;ebOakhkc;cbOakhkc;ebOakni;cbOakni;ebOamsgmg;cb",
    "Oamsgmg;ebOamsgni;cbOamsgni;ebOamsgkni;cbOamsgkni;ebOamsgly;cbOamsgly;ebOamsgkhkc;cbOamsgkhkc",
    ";ebOaqugmg;cbOaqugmg;ebOaqugni;cbOaqugni;ebOaqugkni;cbOaqugkni;ebOaqugly;cbOaqugly;ebOaqugkhk",
    "c;cbOaqugkhkc;ebUakhkc;cbUakhkc;ebUakni;cbUakni;ebUaqugmg;cbUaqugmg;ebUaqugni;cbUaqugni;ebUaq",
    "ugkni;cbUaqugkni;ebUaqugly;cbUaqugly;ebUaqugkhkc;cbUaqugkhkc;ebYani;cbYani;ebYakhkc;cbYakhkc;",
    "ebYakni;cbYakni;ebYaly;cbYaly;ebMIDDLE-WELSH LL;cbMIDDLE-WELSH LL;ebMIDDLE-WELSH V;cbMIDDLE-W",
    "ELSH V;ebYaLOOP;cbYaLOOP:plcbqtamx?mt?mxgnu?mtgnu?mxgnt?mtgnt?mxgpe?mtgpe;ebqtamx?mt?mxgnu?mt",
    "gnu?mxgnt?mtgnt?mxgpe?mtgpe;cbsjamx?mt?mxgnu?mtgnu?mxgnt?mtgnt"]),
  (0x1F18, [":plebsjamx?mt?mxgnu?mtgnu?mxgnt?mtgnt"]),
  (0x1F20, [":plcbETAamx?mt?mxgnu?mtgnu?mxgnt?mtgnt?mxgpe?mtgpe;ebETAamx?mt?mxgnu?mtgnu?mxgnt?mtgn",
    "t?mxgpe?mtgpe;cbrdamx?mt?mxgnu?mtgnu?mxgnt?mtgnt?mxgpe?mtgpe;ebrdamx?mt?mxgnu?mtgnu?mxgnt?mtg",
    "nt?mxgpe?mtgpe;cbuoamx?mt?mxgnu?mtgnu?mxgnt?mtgnt"]),
  (0x1F48, [":plebuoamx?mt?mxgnu?mtgnu?mxgnt?mtgnt"]),
  (0x1F50, [":plcbrmamx?mt?mxgnu?mtgnu?mxgnt?mtgnt?mxgpe?mtgpe"]),
  (0x1F59, [":plebrmamt"]),
  (0x1F5B, [":plebrmamtgnu"]),
  (0x1F5D, [":plebrmamtgnt"]),
  (0x1F5F, [":plebrmamtgpe;cbqiamx?mt?mxgnu?mtgnu?mxgnt?mtgnt?mxgpe?mtgpe;ebqiamx?mt?mxgnu?mtgnu?m",
    "xgnt?mtgnt?mxgpe?mtgpe;cbqtanu?nt=sjanu?nt=ETAanu?nt=rdanu?nt=uoanu?nt=rmanu?nt=qianu?nt"]),
  (0x1F80, [":plcbqtamxgql?mtgql?mxgnugql?mtgnugql?mxgntgql?mtgntgql?mxgpegql?mtgpegql;ebqtamxgsc?",
    "mtgsc?mxgnugsc?mtgnugsc?mxgntgsc?mtgntgsc?mxgpegsc?mtgpegsc;cbETAamxgql?mtgql?mxgnugql?mtgnug",
    "ql?mxgntgql?mtgntgql?mxgpegql?mtgpegql;ebETAamxgsc?mtgsc?mxgnugsc?mtgnugsc?mxgntgsc?mtgntgsc?",
    "mxgpegsc?mtgpegsc;cbqiamxgql?mtgql?mxgnugql?mtgnugql?mxgntgql?mtgntgql?mxgpegql?mtgpegql;ebqi",
    "amxgsc?mtgsc?mxgnugsc?mtgnugsc?mxgntgsc?mtgntgsc?mxgpegsc?mtgpegsc;cbqtaVRACHY?no?nugql?ql?nt",
    "gql"]),
  (0x1FB6, [":plcbqtape?pegql;ebqtaVRACHY?no?nu?nt?sc;KORONIS;sc;mx;pe;vfgpe;cbETAanugql?ql?ntgq",
    "l"]),
  (0x1FC6, [":plcbETAape?pegql;ebsjanu?nt=ETAanu?nt?sc;mxgnu=nt=pe;cbrdaVRACHY?no?vfgnu?vfgnt"]),
  (0x1FD6, [":plcbrdape?vfgpe;ebrdaVRACHY?no?nu?nt"]),
  (0x1FDD, [":plmtgnu=nt=pe;cbrmaVRACHY?no?vfgnu?vfgnt=RHOamx?mt=rmape?vfgpe;ebrmaVRACHY?no?nu?nt=",
    "RHOamt;vfgnu=nt;nu"]),
  (0x1FF2, [":plcbqianugql?ql?ntgql"]),
  (0x1FF6, [":plcbqiape?pegql;ebuoanu?nt=qianu?nt?sc;nt;mt"])
]

end MetesBounds.Text.CharName
