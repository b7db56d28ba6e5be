import MetesBounds.Text.CharName.Block

/-!
# `Text/CharName/Component` — the names of African and Tangut scripts and of Japanese syllables
-/

set_option autoImplicit false

namespace MetesBounds.Text.CharName

/-- Names of African and Tangut scripts and of Japanese syllables. -/
def component : List Block := [
  (0x16800, [":BAMUMbPHASE-A NGKUE MFON=GBIEE FON=PON MFON PIPAEMGBIEE?PIPAEMBA=NAA MFON=SHUENSHUE",
    "T=TITA MFON=NZA MFON=SHINDA PA NJI=PON PA NJI PIPAEMGBIEE?NJI PIPAEMBA=MAEMBGBIEE=TU MAEMBA=N",
    "GANGU=MAEMVEUX=MANSUAE=MVEUAENGAM=SEUNYAM=NTOQPEN=KEUKEUTNDA=NKINDI=SUU=NGKUENZEUM=LAPAQ=LET ",
    "KUT=NTAP MFAA=MAEKEUP=PASHAE=GHEUAERAE=PAMSHAE=MON NGGEUAET=NZUN MEUT=U YUQ NAE=GHEUAEGHEUAE=",
    "NTAP NTAA=SISA=MGBASA=MEUNJOMNDEUQ=MOOMPUQ=KAFA=PA LEERAEWA=NDA LEERAEWA=PET=MAEMKPEN=NIKA=PU",
    "P=TUAEP=LUAEP=SONJAM=TEUTEUWEN=MAENYI=KET=NDAANGGEUAET=KUOQ=MOOMEUT=SHUM=LOMMAE=FIRI=ROM=KPOQ",
    "=SOQ=MAP PIEET=SHIRAE=NTAP=SHOQ NSHUT YUM=NYIT MONGKEUAEQ=PAARAE=NKAARAE=UNKNOWN=NGGEN=MAESI=",
    "NJAM=MBANYI=NYET=TEUAEN=SOT=PAAM=NSHIEE=MAEM=NYI=KAQ=NSHA=VEE=LU=NEN=NAQ=MBAQ<PHASE-B NSHUET=",
    "TU MAEMGBIEE=SIEE=SET TU=LOM NTEUM=MBA MAELEE=KIEEM=YEURAE=MBAARAE=KAM=PEESHI=YAFU LEERAEWA=L",
    "AM NSHUT NYAM=NTIEE SHEUOQ=NDU NJAA=GHEUGHEUAEM=PIT=TU NSIEE=SHET NJAQ=SHEUAEQTU=MFON TEUAEQ=",
    "MBIT MBAAKET=NYI NTEUM=KEUPUQ=GHEUGHEN=KEUYEUX=LAANAE=PARUM=VEUM=NGKINDI MVOP=NGGEU MBU=WUAET",
    "=SAKEUAE=TAAM=MEUQ=NGGUOQ>nh=MFIYAQ=SUE=MBEURI=MONTIEEN=NYAEMAE=PUNGAAM=MEUT NGGEET=FEUX=MBUO",
    "Q=FEE=KEUAEM=MA NJEUAENA>NJUQA=LET=NGGAAM=NSEN=MA=KIQ=NGOM<PHASE-C NGKUE MAEMBA=NZA=YUM=WANGK",
    "UOQ=NGGEN=NDEUAEREE=NGKAQ=GHARAE=MBEEKEET=GBAYI=NYIR MKPARAQ MEUN=NTU MBIT=MBEUM=PIRIEEN=NDOM",
    "BU=MBAA CABBAGE-TREE=KEUSHEUAEP=GHAP=KEUKAQ=YU MUOMAE=NZEUM=MBUE=NSEUAEN=MBIT=YEUQ=KPARAQ=KAA",
    "=SEUX=NDIDA=TAASHAE=NJUEQ=TITA YUE=SUAET=NGGUAEN NYAM=VEUX=NANSANAQ=MA KEUAERI=NTAA=NGGUON=LA",
    "P=MBIRIEEN=MGBASAQ=NTEUNGBA=TEUTEUX=NGGUM=FUE=NDEUT=NSA=NSHAQ=BUNG=VEUAEPEN=MBERAE=RU=NJAEM=L",
    "AM=TITUAEP=NSUOT NGOM=NJEEEE=KET=NGGU=MAESI=MBUAEM=LU=KUT=NJAM=NGOM=WUP=NGGUEET=NSOM=NTEN=KUO",
    "P NKAARAE=NSUN=NDAM=MA NSIEE=YAA=NDAP=SHUEQ=SETFON=MBI=MAEMBA=MBANYI=KEUSEUX=MBEUX=KEUM=MBAA ",
    "PICKET=YUWOQ=NJEUX=MIEE=MUAE=SHIQ=KEN LAW>FATIGUE=NGAQ=NAQ=LIQ=PIN=PEN=TET<PHASE-D MBUO=WAP=N",
    "JI=MFON=NJIEE=LIEE=NJEUT=NSHEE=NGGAAMAE=NYAM=WUAEN=NGKUN=SHEE=NGKAP=KEUAETMEUN=TEUT=SHEUAE=NJ",
    "AP=SUE=KET=YAEMMAE=KUOM=SAP=MFEUT=NDEUX=MALEERI=MEUT=SEUAEQ=YEN=NJEUAEM=KEUOT MBUAE=NGKEURI=T",
    "U=GHAA=NGKYEE=FEUFEUAET=NDEE=MGBOFUM=LEUAEP=NDON=MONI=MGBEUN=PUUT=MGBIEE=MFO=LUM=NSIEEP=MBAA=",
    "KWAET=NYET=TEUAEN=SOT=YUWOQ=KEUM=RAEM=TEEEE=NGKEUAEQ=MFEUAE=NSIEET=KEUP=PIP=PEUTAE=NYUE=LET=N",
    "GGAAM=MFIEE=NGGWAEN=YUOM=PAP=YUOP=NDAM=NTEUM=SUAE=KUN=NGGEUX=NGKIEE=TUOT=MEUN=KUQ=NSUM=TEUN=M",
    "AENJET=NGGAP=LEUM=NGGUOM=NSHUT=NJUEQ=GHEUAE=KU=RENod=TAE=TOQ=NYI=RII=LEEEE=MEEEE=M=SUU=MU=SHI",
    "I=SHEUX=KYEE=NU=SHU=NTEE=PEE=NI=SHOQ=PUQ=MVOP=LOQ=REN MUCH=TI=NTUU=MBAAle=SAQ=FAA<PHASE-E NDA",
    "P=TOON=MBEUM=LAP=VOM=LOON=PAA=SOM=RAQ=NSHUOP=NDUN=PUAE=TAM=NGKA=KPEUX=WUO=SEE=NGGEUAET=PAAM=T",
    "OO=KUOP=LOM=NSHIEE=NGOP=MAEM=NGKEUX=NGOQ=NSHUE=RIMGBA=NJEUX=PEEM=SAA=NGGURAE=MGBA=GHEUX=NGKEU",
    "AEM=NJAEMLI=MAP=LOOT=NGGEEEE=NDIQ=TAEN NTEUM=SET=PUM=NDAA SOFTNESS=NGGUAESHAE NYAM=YIEE=GHEUN",
    "=TUAE=YEUAE=PO=TUMAE=KEUAE=SUAEN=TEUAEQ=VEUAE=WEUX=LAAM=PU=TAAQ=GHAAMAE=NGEUREUT=SHEUAEQ=MGBE",
    "N=MBEE=NZAQ=NKOM=GBET=TUM=KUET=YAP=NYI CLEAVER=YIT=MFEUQ=NDIAQ=PIEEQ=YUEQ=LEUAEM=FUE=GBEUX=NG",
    "KUP=KET=MAE=NGKAAMI=GHET=FA=NTUM=PEUT=YEUM=NGGEUAE=NYIut=NZUQ=POON=MIEE=FUET=NAE=MUAE=GHEUAE=",
    "FU I=MVI=PUAQ=NGKUM=KUT=PIET=NTAP=YEUAET=NGGUP=PA PEOPLE=FU CALL=FOM=NJEE=A=TOQ=O=I=LAQ=PA PL",
    "URAL=TAA=TAQ=NDAA MY HOUSE=SHIQ=YEUX=NGUAE=YUAEN=YOQ SWIMMING>COVER=YUQ=YUN=KEUX=PEUX=NJEE EP",
    "OCH=PUE=WUE=FEE=VEE=LU=MI=REUX=RAE=NGUAET=na=SHO=SHOQ=FU REMEDY=NA=PI=LOQ=KO=MEN=MA=MAQ=TEU=K",
    "I=MON=mr=FAQ=GHOM<PHASE-F KA=U=KU=EE=REE=TAE=NYI=LA=RII=RIEE=MEEEE=TAA=NDAA=NJAEM=M=SUU=SHII=",
    "SI=SEUX=KYEE=KET=NUAE=NU=NJUAE=YOQ=SHU=YA=NSHA=PEUX=NTEE=WUE=PEE=RU=NI=REUX=KEN=NGKWAEN=NGGA=",
    "SHO=PUAE=FOM=WA=LI=LOQ=KO=MBEN=REN=MA=MO=MBAA=TET=KPA=SAMBA=VUEQ"]),
  (0x16A40, [":MRObTA<NGI<YO<MIM<BA<DA<A<PHI<KHAI<HAO<DAI<CHU<KEAAE<OL<MAEM<NIN<PA<OO<O<RO<SHI<THE",
    "A<EA<WA<E<KO<LAN<LA<HAI<RI<TEK"]),
  (0x16A60, [":MROlumk<kd<kb<ki<km<kq<kz<le<la<li"]),
  (0x16A6E, [":MROrp;kfrp:TANGSAbOZ<OC<OQ<OX<AZ<AC<AQ<AX<VZ<VC<VQ<VX<EZ<EC<EQ<EX<IZ<IC<IQ<IX<UZ<UC",
    "<UQ<UX<AWZ<AWC<AWQ<AWX<UIZ<UIC<UIQ<UIX<keNG<moUEX<ouUEZ=AWX<UEC<UEZ<UEQ<UEX<UIUZ<UIUC<UIUQ<UI",
    "UX<MZ<MC<MQ<MX<KA<nn<GA<na<SA<YA<WA<PA<nl<om<BA<MA<NA<HA<LA<HTA<TA<DA<RA<NHA<nb<CA<TSA<oz<HTT",
    "A<nw<XA<FA<pa<nk<ZA"]),
  (0x16AC0, [":TANGSAlumk<kd<kb<ki<km<kq<kz<le<la<li"]),
  (0x16AD0, [":BASSA VAHbENNI=KA=SE=FA=MBE=YIE=GAH=DHII=KPAH=JO=HWAH=WA=ZO=GBU=DO=CE=UWU=TO=BA=VU=",
    "YEIN=PA=WADDA=A=O=OO=U=EE=E=I"]),
  (0x16AF0, [":BASSA VAHpjmvmu=mcmu=MIDmu=LOW-MIDmu=HIGH-LOWmu<ovnd"]),
  (0x16B00, [":PAHAWH HMONGlhKEEB=KEEV=KIB=KIV=KAUB=KAUV=KUB=KUV=KEB=KEV=KAIB=KAIV=KOOB=KOOV=KAWB=",
    "KAWV=KUAB=KUAV=KOB=KOV=KIAB=KIAV=KAB=KAV=KWB=KWV=KAAB=KAAV<tbVAU=NTSAU=LAU=HAU=NLAU=RAU=NKAU=",
    "QHAU=YAU=HLAU=MAU=CHAU=NCHAU=HNAU=PLHAU=NTHAU=NAU=AU=XAU=CAU<kgCIM TUB>SO>KES>KHAV>SUAM>HOM>T",
    "AUM<fVOS THOM>TSHAB CEEB=CIM CHEEM=VOS THIAB>FEEM=XYEEM NTXIV>RHO>TOV>FAIB=VOS SEEV=MEEJ SUAB",
    "=VOS NRUA=IB YAM=XAUS=CIM TSOV ROG"]),
  (0x16B50, [":PAHAWH HMONGlumk=kd=kb=ki=km=kq=kz=le=la=li"]),
  (0x16B5B, [":PAHAWH HMONGnpTENS=HUNDREDS=mrzf=MILLIONS=lgMILLIONS=mrBILLIONS=TRILLIONS"]),
  (0x16B63, [":PAHAWH HMONGfVOS LUB=XYOO=HLI=THIRD-STAGE HLI=ZWJ THAJ=HNUB=NQIG=XIAB=NTUJ=AV=TXHEE",
    "J CEEV=MEEJ TSEEB=TAU=LOS=MUS=CIM HAIS LUS NTOG NTOG>CUAM TSHOOJ>TXWV?CHWV>PUB DAWB>NRES TO",
    "S"]),
  (0x16B7D, [":PAHAWH HMONG CLANfTSHEEJ>YEEG>LIS>LAUJ>XYOOJ>KOO>HAWJ>MUAS>THOJ>TSAB>PHAB>KHAB>HAM>",
    "VAJ>FAJ>YAJ>TSWB>KWM>VWJ"]),
  (0x16E40, [":MEDEFAIDRINebM=S=V=W=ATIU=Z=KP=P=T=G=F=I=K=A=J=E=B=C=U=YU=L=Q=HP=NY=X=D=OE=N=R=O=AI",
    "=Y;cbM=S=V=W=ATIU=Z=KP=P=T=G=F=I=K=A=J=E=B=C=U=YU=L=Q=HP=NY=X=D=OE=N=R=O=AI=Y;lumk<kd<kb<ki<k",
    "m<kq<kz<le<la<li;npmr<ELEVEN<wo<THIRTEEN<FOURTEEN<xu<SIXTEEN<zd<ym<NINETEEN;lukdtad<kbtad<kit",
    "ad;nv;ovnd;kpAIVA;skOH"]),
  (0x16F00, [":MIAObPA<BA<YI PA<PLA<MA<MHA<tuMA<FA<VA<VFA<TA<DA<YIox=TA<ox<oy<NA<NHA<YIpm<tuNA<pm<",
    "NNHA<LA<LYA<LHA<LHYA<TLHA<DLHA<TLHYA<DLHYA<KA<GA<YI KA<QA<QGA<na<NGHA<tuna<HA<XA<oz<GHHA<TSSA",
    "<DZZA<nl<NYHA<TSHA<DZHA<YI TSHA=DZHA<REFORMED TSHA<nb<py<ZHA<ZSHA<TSA<DZA<YI TSA<SA<ZA<ZSA<ZZ",
    "A<ZZSA<tuZZA<ZZYA<ZZSYA<WA<AH<HHA<BRI<SYI<DZYI<TE<TSE<RTE"]),
  (0x16F4F, [":MIAOftbrelb;bNASALIZATION;fASPIRATION<REFORMED VOICING=ASPIRATION;lhfA=AA=AHH=AN=AN",
    "G=O=OO=WO=W=E=EN=ENG=OEY=I=IA=IAN=IANG=IO=IE=II=IU=ING=U=UA=UAN=UANG=UU=UEI=UNG=Y=YI=AE=AEE=E",
    "RR=ROUNDED ERR=ER=ROUNDED ER=AI=EI=AU=OU=N=NG=UOG=YUI=OG=OER=VW=IG=EA=IONG=UI"]),
  (0x16F8F, [":MIAOmuj<pwj<i<kc;bTONE-2@@@@@@<REFORMED TONE-1@=TONE-4@@=TONE-8"]),
  (0x16FE0, [":TANGUTyekg:NUSHUyekg:odCHINESEknkg<yekg:KHITANcrfFILLER"]),
  (0x16FF0, [":VIETNAMESEtaREADINGkgCA>NHAY"]),
  (0x18800, [":TANGUT COMPONENT-001@@@@@@@@@@@@@@@@@@@@@@@@@@@@@@@@@@@@@@@@@@@@@@@@@@@@@@@@@@@@@@@",
    "@@@@@@@@@@@@@@@@@@@@@@@@@@@@@@@@@@@@@@@@@@@@@@@@@@@@@@@@@@@@@@@@@@@@@@@@@@@@@@@@@@@@@@@@@@@@@",
    "@@@@@@@@@@@@@@@@@@@@@@@@@@@@@@@@@@@@@@@@@@@@@@@@@@@@@@@@@@@@@@@@@@@@@@@@@@@@@@@@@@@@@@@@@@@@@",
    "@@@@@@@@@@@@@@@@@@@@@@@@@@@@@@@@@@@@@@@@@@@@@@@@@@@@@@@@@@@@@@@@@@@@@@@@@@@@@@@@@@@@@@@@@@@@@",
    "@@@@@@@@@@@@@@@@@@@@@@@@@@@@@@@@@@@@@@@@@@@@@@@@@@@@@@@@@@@@@@@@@@@@@@@@@@@@@@@@@@@@@@@@@@@@@",
    "@@@@@@@@@@@@@@@@@@@@@@@@@@@@@@@@@@@@@@@@@@@@@@@@@@@@@@@@@@@@@@@@@@@@@@@@@@@@@@@@@@@@@@@@@@@@@",
    "@@@@@@@@@@@@@@@@@@@@@@@@@@@@@@@@@@@@@@@@@@@@@@@@@@@@@@@@@@@@@@@@@@@@@@@@@@@@@@@@@@@@@@@@@@@@@",
    "@@@@@@@@@@@@@@@@@@@@@@@@@@@@@@@@@@@@@@@@@@@@@@@@@@@@@@@@@@@@@@@@@@@@@@@@@@@@@@@@@@@@@@@@@@@@@",
    "@@@@@@@@@@@@@@@@@@@@@@@@@@@@@@@@@@@@@@@@@@@@@@@@@@@@@"]),
  (0x1AFF0, [":wjbMINNAN TONE-2@@@"]),
  (0x1AFF5, [":wjbMINNAN TONE-7@=NASALIZED TONE-1@@@@"]),
  (0x1AFFD, [":wjbMINNAN NASALIZED TONE-7@"])
]

end MetesBounds.Text.CharName
