import MetesBounds.Text.CharName.Block

/-!
# `Text/CharName/Ancient` — the names of scripts of antiquity
-/

set_option autoImplicit false

namespace MetesBounds.Text.CharName

/-- Names of scripts of antiquity. -/
def ancient : List Block := [
  (0x10000, [":LINEAR BojB008 A=B038 E=B028 I=B061 O=B010 U=B001 DA=B045 DE=B007 DI=B014 DO=B051 D",
    "U=B057 JA=B046 JE"]),
  (0x1000D, [":LINEAR BojB036 JO=B065 JU=B077 KA=B044 KE=B067 KI=B070 KO=B081 KU=B080 MA=B013 ME=B",
    "073 MI=B015 MO=B023 MU=B006 NA=B024 NE=B030 NI=B052 NO=B055 NU=B003 PA=B072 PE=B039 PI=B011 P",
    "O=B050 PU=B016 QA=B078 QE=B021 QI=B032 QO"]),
  (0x10028, [":LINEAR BojB060 RA=B027 RE=B053 RI=B002 RO=B026 RU=B031 SA=B009 SE=B041 SI=B012 SO=B",
    "058 SU=B059 TA=B004 TE=B037 TI=B005 TO=B069 TU=B054 WA=B075 WE=B040 WI=B042 WO"]),
  (0x1003C, [":LINEAR BojB017 ZA=B074 ZE"]),
  (0x1003F, [":LINEAR BojB020 ZO=B025 A2=B043 A3=B085 AU=B071 DWE=B090 DWO=B048 NWA=B029 PU2=B062 ",
    "PTE=B076 RA2=B033 RA3=B068 RO2=B066 TA2=B087 TWE=B091kb"]),
  (0x10050, [":LINEAR BkpB018@=B022=B034=B047=B049=B056=B063@=B079=B082@=B086=B089"]),
  (0x10080, [":LINEAR B IDEOGRAM B100 MAN=B102 WOMAN=B104 DEER=B105 EQUID=B105F MARE=B105M STALLIO",
    "N=B106F EWE=B106M RAM=B107F SHE-GOAT=B107M HE-GOAT=B108F SOW=B108M BOAR=B109F COW=B109M BULL=",
    "B120 WHEAT=B121 BARLEY=B122 OLIVE=B123 SPICE=B125 CYPERUS<MONOGRAM B127 KAPO=B128 KANAKO<IDEO",
    "GRAM B130 OIL=B131 WINE=B132<MONOGRAM B133 AREPA=B135 MERI<IDEOGRAM B140 BRONZE=B141 GOLD=B14",
    "2=B145 WOOL=B146=B150=B151qu=B152@@<MONOGRAM B156 TURO2<IDEOGRAM B157@=B159 CLOTH=B160@=B162 ",
    "GARMENT=B163 ARMOUR=B164@@@@@@@@=B173 MONTH=B174=B176 TREE=B177@@@@@@@@=B189@=B191 HELMET=B22",
    "0 FOOTSTOOL=B225 BATHTUB=B230 SPEAR=B231h=B232=B233 SWORD=B234=B236=B240 WHEELED CHARIOT=B241",
    " CHARIOT=B242 CHARIOT FRAME=B243 WHEEL=B245@<MONOGRAM B247 DIPTE<IDEOGRAM B248@=B251@@=B254 D",
    "ART=B255@@@@=VESSEL B155>B200@@@@@@@@@@@@@@@@@@@>B221@>B226@@@>B250>B305"]),
  (0x10100, [":AEGEAN WORDrgmw=kh;CHECKkg"]),
  (0x10107, [":AEGEANnpkd<kb<ki<km<kq<kz<le<la<li<mr<pz<tn<uh<qx<uy<qv<vu<qk<kdlg<kblg<kilg<kmlg<k",
    "qlg<kzlg<lelg<lalg<lilg<kdlq<kblq<kilq<kmlq<kqlq<kzlq<lelq<lalq<lilq<mrlq<pzlq<tnlq<uhlq<qxlq",
    "<uylq<qvlq<vulq<qklq"]),
  (0x10137, [":AEGEAN WEIGHT BASE UNIT<FIRST SUBUNIT<SECOND SUBUNIT<THIRD SUBUNIT<FOURTH SUBUNIT;D",
    "RY MEASURE FIRST SUBUNIT;LIQUID MEASURE FIRST SUBUNIT;MEASURE SECOND SUBUNIT<THIRD SUBUNIT:pl",
    "ACROPHONIC ATTICkdqy>lf>DRACHMA=kq=qx=kqlg>lq=qxlq=kqTALENTS=mrTALENTS=qxTALENTS=kdlgTALENTS=",
    "kqlgTALENTS=kdlqTALENTS=kqlqTALENTS>STATERS=mrSTATERS=qxSTATERS=kdlgSTATERS=kqlgSTATERS=kdlqS",
    "TATERS=mrlqSTATERS=qxlqSTATERS=mrMNAS<HERAEUMkdPLETHRON<THESPIANkd<HERMIONIANkd<EPIDAUREANkb<",
    "THESPIANkb<CYRENAICkbDRACHMAS<EPIDAUREANkbDRACHMAS<TROEZENIANkq=mr>tad<HERMIONIANmr<MESSENIAN",
    "mr<THESPIANmr=tn<TROEZENIANqx>tad<HERMIONIANqx<THESPIANqx=kdlg=kilg<EPIDAUREANkqlg<TROEZENIAN",
    "kqlg<THESPIANkqlg<CARYSTIANkqlg<NAXIANkqlg<THESPIANkdlq=kqlq<DELPHICkqMNAS<STRATIANqxMNAS;kdl",
    "ff>tad;kbTHIRDSf;kiwcf;YEARf;TALENTf;DRACHMAf;OBOLf;kbOBOLSf;kiOBOLSf;kmOBOLSf;kqOBOLSf;METRE",
    "TESf;KYATHOS BASEf;LITRAf;OUNKIAf;XESTESf;ARTABEf;AROURAf;GRAMMAf;TRYBLION BASEf;mkf;kdqyf;SI",
    "NUSOIDf;INDICTIONf:NOMISMAf"]),
  (0x10190, [":ROMAN SEXTANSf;UNCIAf;SEMUNCIAf;SEXTULAf;DIMIDIA SEXTULAf;SILIQUAf;DENARIUSf;QUINAR",
    "IUSf;SESTERTIUSf;DUPONDIUSf;ASf;CENTURIALf:ASCIAkp"]),
  (0x101A0, [":plkpTAU RHO"]),
  (0x101D0, [":PHAISTOS DISCfPEDESTRIAN=PLUMED HEAD=TATTOOED HEAD=CAPTIVE=CHILD=WOMAN=HELMET=GAUNT",
    "LET=TIARA=h=BOW=SHIELD=CLUB=MANACLES=MATTOCK=SAW=LID=BOOMERANG=CARPENTRY PLANE=DOLIUM=COMB=SL",
    "ING=COLUMN=BEEHIVE=SHIP=qu=HIDE=BULLS LEG=CAT=RAM=EAGLE=DOVE=TUNNY=BEE=PLANE TREE=VINE=PAPYRU",
    "S=ROSETTE=LILY=OX BACK=FLUTE=GRATER=STRAINER=cAXE=WAVY BAND=pjvzko"]),
  (0x10280, [":LYCIANbA<E<B<BH<G<D<I<W<Z<TH<J<K<Q<L<M<N<MM<NN<U<P<KK<R<S<T<TT<AN<EN<H<X"]),
  (0x102A0, [":CARIANbA<P2<D<L<UUU<R<LD<A2<Q<B<M<O<D2<T<SH<SH2<S<C-18<U<NN<X<N<TT2<P<SS<I<E<UUUU<K",
    "<K2<ND<UU<G<G2<ST<ST2<NG<II<C-39<TT<UUU2<RR<MB<MB2@@<LD2<E2<UUU3"]),
  (0x102E0, [":shEPACTzfkg<lukd=kb=ki=km=kq=kz=le=la=li<npmr=pz=tn=uh=qx=uy=qv=vu=qk=kdlg=kblg=kil",
    "g=kmlg=kqlg=kzlg=lelg=lalg=lilg"]),
  (0x10300, [":odwubA=BE=KE=DE=E=VE=ZE=HE=THE=I=KA=EL=EM=EN=ESH=O=PE=SHE=KU=ER=ES=TE=U=EKS=PHE=KHE",
    "=EF=ERS=CHE=II=UU=ESS<NUMERALkd=kq=mr=qx"]),
  (0x1032D, [":odwubYE=NORTHERN TSE=SOUTHERN TSE:GOTHICbAHSA<BAIRKAN<GIBA<DAGS<AIHVUS<QAIRTHRA<IUJ",
    "A<HAGL<THIUTH<EIS<KUSMA<LAGUS<MANNA<NAUTHS<JER<URUS<PAIRTHRA<qk<RAIDA<SAUIL<TEIWS<WINJA<FAIHU",
    "<IGGWS<HWAIR<OTHAL<lilg"]),
  (0x10350, [":odPERMICbAN=BUR=GAI=DOI=E=ZHOI=DZHOI=ZATA=DZITA=I=KOKE=LEI=MENOE=NENOE=VOOI=PEEI=RE",
    "I=SII=TAI=U=CHERY=SHOOI=SHCHOOI=YRY=YERU=O=OO=EF=HA=TSIU=VER=YER=YERI=YAT=IE=YU=YA=IA:pjodPER",
    "MICbAN>DOI>ZATA>NENOE>SII"]),
  (0x10380, [":UGARITICbALPA<BETA<GAMLA<nn<ts<HO<WO<ZETA<HOTA<TET<YOD<KAF<rr<LAMDA<MEM<DHAL<pd<ZU<",
    "SAMKA<AIN<PU<SADE<QOPA<RASHA<THANNA<uu<TO<I<U<SSU"]),
  (0x1039F, [":UGARITIC WORD DIVIDER:odPERSIANfA=I=U=KA=KU=GA=GU=XA=CA=JA=JI=TA=TU=DA=DI=DU=nw=PA=",
    "BA=FA=NA=NU=MA=MI=MU=YA=VA=VI=RA=RU=LA=SA=ZA=nb=py=HA"]),
  (0x103C8, [":odPERSIANfAURAMAZDAA=AURAMAZDAA-2=AURAMAZDAAHA=XSHAAYATHIYA=DAHYAAUSH=DAHYAAUSH-2=B",
    "AGA=BUUMISH<WORD DIVIDER<npkd=kb=mr=pz=lg"]),
  (0x10400, [":DESERETebmoI>E>A>AH>O>OO=ouI>E>A>AH>O>OO=AY=OW=WU=YEE=H=PEE=BEE=TEE=DEE=CHEE=JEE=KA",
    "Y=GAY=EF=VEE=ETH=THEE=ES=ZEE=ESH=ZHEE=ER=EL=EM=EN=ENG=OI=EW;cbmoI>E>A>AH>O>OO=ouI>E>A>AH>O>OO",
    "=AY=OW=WU=YEE=H=PEE=BEE=TEE=DEE=CHEE=JEE=KAY=GAY=EF=VEE=ETH=THEE=ES=ZEE=ESH=ZHEE=ER=EL=EM=EN=",
    "ENG=OI=EW:SHAVIANbPEEP<TOT<KICK<FEE<THIGH<SO<SURE<CHURCH<YEA<HUNG<BIB<DEAD<GAG<VOW<THEY<ZOO<M",
    "EASURE<JUDGE<WOE<HA-HA<LOLL<MIME<IF<EGG<pc<ADO<ON<WOOL<OUT<AH<ROAR<pd<EAT<AGE<ICE<UP<OAK<OOZE",
    "<OIL<AWE<ARE<OR<AIR<ERR<ARRAY<EAR<IAN<YEW:OSMANYAbls<BA<TA<JA<XA<nn<DEEL<RA<SA<SHIIN<pa<CAYN<",
    "GA<FA<QAAF<KAAF<LAAN<MIIN<NUUN<qj<HA<YA<A<E<I<O<U<AA<EE<OO"]),
  (0x104A0, [":OSMANYAlumk<kd<kb<ki<km<kq<kz<le<la<li"]),
  (0x104B0, [":OSAGEebA=AI=AIN=AH=BRA=nk=EHCHA=E=EIN=HA=HYA=I=KA=EHKA=KYA=LA=MA=NA=O=OIN=PA=EHPA=S",
    "A=nb=TA=EHTA=TSA=EHTSA=TSHA=pa=U=WA=nn=oz=ZA=ZHA"]),
  (0x104D8, [":OSAGEcbA=AI=AIN=AH=BRA=nk=EHCHA=E=EIN=HA=HYA=I=KA=EHKA=KYA=LA=MA=NA=O=OIN=PA=EHPA=S",
    "A=nb=TA=EHTA=TSA=EHTSA=TSHA=pa=U=WA=nn=oz=ZA=ZHA"]),
  (0x10500, [":ELBASANbA<BE<CE<CHE<DE<NDE<DHE<EI<E<FE<GE<GJE<HE<I<JE<KE<LE<LLE<ME<NE<NA<NJE<O<PE<Q",
    "E<RE<RRE<SE<SHE<TE<THE<U<VE<XE<Y<ZE<ZHE<GHE<GHAMMA<KHE"]),
  (0x10530, [":CAUCASIAN ALBANIANbALT=BET=GIM=DAT=EB=ZARL=EYN=ZHIL=TAS=nk=YOWD=ZHA=IRB=nb=LAN=INYA",
    "=XEYN=DYAN=CAR=JHOX=KAR=LYIT=HEYT=QAY=AOR=CHOY=CHI=CYAY=MAQ=QAR=NOWC=DZYAY=SHAK=JAYN=ON=TYAY=",
    "FAM=DZAY=CHAT=PEN=GHEYS=RAT=SEYK=VEYZ=TIWR=SHOY=IWN=CYAW=CAYN=YAYD=PIWR=KIW"]),
  (0x1056F, [":CAUCASIAN ALBANIAN CITATIONkg:VITHKUQIebA=BBE=BE=CE=CHE=DE=DHE=EI=E=FE=GA"]),
  (0x1057C, [":VITHKUQIebHA=HHA=I=IJE=JE=KA=LA=LLA=ME=NE=NJE=O=PE=QA=RE"]),
  (0x1058C, [":VITHKUQIebSE=SHE=TE=THE=U=VE=XE"]),
  (0x10594, [":VITHKUQIebY=ZE"]),
  (0x10597, [":VITHKUQIcbA=BBE=BE=CE=CHE=DE=DHE=EI=E=FE=GA"]),
  (0x105A3, [":VITHKUQIcbHA=HHA=I=IJE=JE=KA=LA=LLA=ME=NE=NJE=O=PE=QA=RE"]),
  (0x105B3, [":VITHKUQIcbSE=SHE=TE=THE=U=VE=XE"]),
  (0x105BB, [":VITHKUQIcbY=ZE"]),
  (0x10600, [":LINEAR AfAB001@@@@@@@@@@=AB013=AB016@=AB020@=AB021F=AB021M=AB022=AB022F=AB022M=AB02",
    "3=AB023M=AB024=AB026@@=A028B=AB029@@=AB034=AB037@@@@=AB044@@@@@@@=AB053@@@@@@@@=AB065@@=AB069",
    "@=AB073@=AB076@@@@@@=AB085@@=A100-102=AB118=AB120=A120B=AB122@=AB131A=AB131B=A131C=AB164=AB17",
    "1=AB180=AB188=AB191=A301@@@@@@@=A309A=A309B=A309C=A310@@=A313A=A313B=A313C=A314@@@@@@@@@@@@@@",
    "@@@@@@@@@@@@@@@@@@@@@@@@@@@@@@@@@@@@@@@@@@@=A400-VAS=A401-VAS=A402-VAS=A403-VAS=A404-VAS=A405",
    "-VAS=A406-VAS=A407-VAS=A408-VAS=A409-VAS=A410-VAS=A411-VAS=A412-VAS=A413-VAS=A414-VAS=A415-VA",
    "S=A416-VAS=A417-VAS=A418-VAS=A501@@@@@=A508@@@@@=A515@=A520@=A523@@@@@@@@@=A534@@@@@@@@=A545=",
    "A547@@@@@@@@@@=A559=A563@@@=A568@@@@@@@@@@@@@@@@@@@@@=A591@=A594@@=A598=A600@@@@=A606=A608@@@",
    "@@@@@@@@@@@@@=A626@@@=A634=A637@=A640=A642@@@@=A648@=A651@@@@@@@@@@@@@"]),
  (0x10740, [":LINEAR AfA701 A=A702 B=A703 D=A704 E=A705 F=A706 H=A707 J=A708 K=A709 L=A709-2 L2=A",
    "709-3 L3=A709-4 L4=A709-6 L6=A710 W=A711 X=A712 Y=A713qi=A714 ABB=A715 BB=A717 DD=A726 EYYY=A",
    "732 JE"]),
  (0x10760, [":LINEAR AfA800@@@@@@@"]),
  (0x10780, [":rebceAA<wmtorb=lftorb<cAE=eB=Bakn"]),
  (0x10787, [":rebcDZry?apukn?aCURL=DEZHry=Daon?kn?kngon=myE=qqmympE=FENGry=RAMSqu=eG=Gakn=eGakn=H",
    "ako=eH=HENGakn=vgJakogkn=LSry=LZry=LaBELT=eLaBELT=LapukngBELT=LEZH>apukn=mqY?aBELT=Oako=eOE=q",
    "qqi=Q=mqRamoLEG?amoLEGgpukn=Raon?FISHHOOK=eR=TCryaCURL=TSry?apukn=TESHry=Tapukn=Vajkn"]),
  (0x107B2, [":rebceY<rzndako<myrzndako<BILABIAL CLICK<DENTAL CLICK<LATERAL CLICK<ALVEOLAR CLICK<p",
    "uCLICKapukn<cSaCURL"]),
  (0x10800, [":CYPRIOTojA<E<I<O<U<JA"]),
  (0x10808, [":CYPRIOTojJO"]),
  (0x1080A, [":CYPRIOTojKA<KE<KI<KO<KU<LA<LE<LI<LO<LU<MA<ME<MI<MO<MU<NA<NE<NI<NO<NU<PA<PE<PI<PO<PU",
    "<RA<RE<RI<RO<RU<SA<SE<SI<SO<SU<TA<TE<TI<TO<TU<WA<WE<WI<WO"]),
  (0x10837, [":CYPRIOTojXA<XE"]),
  (0x1083C, [":CYPRIOTojZA"]),
  (0x1083F, [":CYPRIOTojZO:IMPERIAL ARAMAICbur=BETH=vh=DALETH=HE=qj=ZAYIN=HETH=TETH=YODH=KAPH=vx=M",
    "EM=pd=vo=AYIN=PE=SADHE=QOPH=RESH=rr=TAW"]),
  (0x10857, [":IMPERIAL ARAMAICsvf<npkd=kb=ki=mr=pz=kdlg>lq=mrlq:PALMYRENEbur<BETH<vh<DALETH<HE<qj",
    "<ZAYIN<HETH<TETH<YODH<KAPH<vx<MEM<kepd<pd<vo<AYIN<PE<SADHE<QOPH<RESH<rr<TAW;ttFLEURON;suFLEUR",
    "ON;npkd<kb<ki<km<kq<mr<pz:NABATAEANbkeur<ur<keBETH<BETH<vh<DALETH<keHE<HE<qj<ZAYIN<HETH<TETH<",
    "keYODH<YODH<keKAPH<KAPH<kevx<vx<keMEM<MEM<kepd<pd<vo<AYIN<PE<SADHE<QOPH<RESH<kerr<rr<TAW"]),
  (0x108A7, [":NABATAEANnpkd<kb<ki<km;CRUCIFORMnpkm;npkq<mr<pz<kdlg"]),
  (0x108E0, [":HATRANbur<BETH<vh<DALETH-RESH<HE<qj<ZAYN<HETH<TETH<YODH<KAPH<vx<MEM<pd<vo<AYN<PE<SA",
    "DHE<QOPH"]),
  (0x108F4, [":HATRANbrr<TAW"]),
  (0x108FB, [":HATRANnpkd<kq<mr<pz<kdlg:PHOENICIANbALF<BET<GAML<DELT<HE<WAU<ZAI<HET<TET<YOD<KAF<LA",
    "MD<MEM<pd<SEMK<AIN<PE<SADE<QOF<ROSH<rr<TAU;npkd<mr<pz<kdlg<kb<ki"]),
  (0x1091F, [":PHOENICIAN WORDrg:LYDIANbA<B<G<D<E<V<I<Y<K<L<M<N<O<R<SS<T<U<F<Q<S<TT<AN<EN<LY<NN<",
    "C"]),
  (0x1093F, [":LYDIANtokg"]),
  (0x10980, [":MEROITIC HIEROGLYPHICbA=E=I=O=YA=WA=BA=BA-2=PA=MA=NA=NA-2=NE=NE-2=RA=RA-2=LA=nn=HHA",
    "=SA=SA-2=SE=KA=QA=TA=TA-2=TE=TE-2=TO=DA<kpVIDJ=VIDJ-2;CURSIVEbA=E=I=O=YA=WA=BA=PA=MA=NA=NE=RA",
    "=LA=nn=HHA=SA=tuSA=SE=KA=QA=TA=TE=TO=DA"]),
  (0x109BC, [":MEROITIC CURSIVEtwELEVENyh=kdlf<LOGOGRAM RMT=IMN<npkd=kb=ki=km=kq=kz=le=la=li=mr=pz",
    "=tn=uh=qx=uy=qv"]),
  (0x109D2, [":MEROITIC CURSIVEnpkdlg=kblg=kilg=kmlg=kqlg=kzlg=lelg=lalg=lilg=kdlq=kblq=kilq=kmlq=",
    "kqlq=kzlq=lelq=lalq=lilq=mrlq=pzlq=tnlq=uhlq=qxlq=uylq=qvlq=vulq=qklq=kdlglq=kblglq=kilglq=km",
    "lglq=kqlglq=kzlglq=lelglq=lalglq=lilglq<twkdTWELFTH=kbyh=kiyh=kmyh=kqyh=kzyh=leyh=layh=liyh=m",
    "ryh:zabA;lhfI=U=ofR"]),
  (0x10A05, [":zalhfE=O"]),
  (0x10A0C, [":zalhvykg;fkfmakc<ow<qp;bKA<nn<GA<oz"]),
  (0x10A15, [":zabCA<nk<JA"]),
  (0x10A19, [":zabnl<ox<px<oy<qb<pm<TA<nw<DA<pa<NA<PA<om<BA<pn<MA<YA<RA<LA<VA<nb<py<SA<ZA<HA<KKA<T",
    "TTHA<TTTA<VHA"]),
  (0x10A38, [":zaflbi<CAUDA<khkc"]),
  (0x10A3F, [":zaqa;lukd<kb<ki<km;npmr<pz<kdlg=lq;twkdlf"]),
  (0x10A50, [":zapqkh<cln<ln<CRESCENTlb<MANGALAM<LOTUS<rp<kfrp<LINES"]),
  (0x10A60, [":odprARABIANbHE>vx>HETH>MEM>QOPH>qj>rr>RESH>BETH>TAW>SAT>KAPH>pd>KHETH>SADHE>vo>FE>l",
    "s>AYN>DHADHE>vh>DALETH>GHAYN>TETH>ZAYN>DHALETH>YODH>THAW>THETH=npkd>qx=NUMERICyz;pbARABIANbHE",
    "H>LAM>me>kx>QAF>qj>ES-2>REH>BEH>TEH>ES-1>KAF>qh>ok>SAD>ES-3>FEH>ls>AIN>DAD>GEEM>DAL>uu>TAH>ZA",
    "IN>THAL>lp>THEH>ZAH=npkd>mr>pz"]),
  (0x10AC0, [":MANICHAEANbur<BETH<BHETH<vh<GHIMEL<DALETH<HE<qj;fUD;bZAYIN<ZHAYIN<JAYIN<JHAYIN<HETH",
    "<TETH<YODH<KAPH<XAPH<KHAPH<vx<DHAMEDH<THAMEDH<MEM<pd<vo<AYIN<AAYIN<PE<FE<SADHE<QOPH<XOPH<QHOP",
    "H<RESH<rr<SSHIN<TAW;uckgi=kc"]),
  (0x10AEB, [":MANICHAEANnpkd<kq<mr<pz<kdlg;pqoe<FLEURON<kfkhWITHINkh<khWITHINkh=<kblm<mwFILLER"]),
  (0x10B00, [":AVESTANbA<AA<AO<AAO<AN<AAN<AE<AEE<E<EE<O<OO<I<II<U<UU<KE<XE<XYE<XVE<GE<GGE<GHE<CE<J",
    "E<TE<THE<DE<DHE<TTE<PE<FE<BE<BHE<NGE<NGYE<NGVE<NE<NYE<NNE<ME<HME<YYE<YE<VE<RE<LE<SE<ZE<SHE<ZH",
    "E<SHYE<SSHE<HE"]),
  (0x10B39, [":AVESTANuckg:TINYkblmlokdkhpq:ckblmlokdkhpq:nhkblmlokdkhpq;kdkhlokblmpq;kbRINGSlokdm",
    "apq;kdmalokbRINGSpq:INSCRIPTIONAL PARTHIANbur=BETH=vh=DALETH=HE=qj=ZAYIN=HETH=TETH=YODH=KAPH=",
    "vx=MEM=pd=vo=AYIN=PE=SADHE=QOPH=RESH=rr=TAW"]),
  (0x10B58, [":INSCRIPTIONAL PARTHIANnpkd=kb=ki=km=mr=pz=kdlg>lq;PAHLAVIbur=BETH=vh=DALETH=HE=WAW-",
    "AYIN-RESH=ZAYIN=HETH=TETH=YODH=KAPH=vx=MEM-QOPH=pd=vo=PE=SADHE=rr=TAW"]),
  (0x10B78, [":INSCRIPTIONAL PAHLAVInpkd=kb=ki=km=mr=pz=kdlg>lq:PSALTER PAHLAVIbur=BETH=vh=DALETH=",
    "HE=WAW-AYIN-RESH=ZAYIN=HETH=YODH=KAPH=vx=MEM-QOPH=pd=vo=PE=SADHE=rr=TAW"]),
  (0x10B99, [":PSALTER PAHLAVIsvkg<mqsvkg<kmlmaph?kh"]),
  (0x10BA9, [":PSALTER PAHLAVInpkd=kb=ki=km=mr=pz=kdlg"]),
  (0x10C00, [":odTURKICbruA=seA>AE=ruI=seI>E=ruO>OE=seOE=ruAB=seAB=ruAEB=seAEB=ruAG=seAG=ruAEG=seA",
    "EG=ruAD=seAD=ruAED>EZ=seEZ=ruAY=seAY=ruAEY=seAEY=ruAEK=seAEK=ruOEK=seOEK=ruAL=seAL=ruAEL>ELT>",
    "EM>AN>AEN=seAEN=ruENT=seENT=ruENC=seENC=ruENY=seENY>ANG=ruENG=seAENG=ruEP>OP>IC>EC=seEC=ruAQ=",
    "seAQ=ruIQ=seIQ=ruOQ=seOQ=ruAR=seAR=ruAER>AS>AES>pc=sepc=ruESH=seESH=ruAT=seAT=ruAET=seAET=ruO",
    "T>BASH"]),
  (0x10C80, [":odHUNGARIANebA>AA>EB>AMB>EC>ENC>ECS>ED>g>E>CLOSE E>EE>EF>EG>EGY>EH>I>II>EJ>EK>AK>UN",
    "K>EL>ELY>EM>EN>ENY>O>OO>NIKOLSBURG OE>RUDIMENTA OE>OEE>EP>EMP>ER>ouER>ES>ESZ>ET>ENT>ETY>ECH>U",
    ">UU>NIKOLSBURG UE>RUDIMENTA UE>EV>EZ>EZS>ENT-SHAPEDf>US"]),
  (0x10CC0, [":odHUNGARIANcbA>AA>EB>AMB>EC>ENC>ECS>ED>g>E>CLOSE E>EE>EF>EG>EGY>EH>I>II>EJ>EK>AK>UN",
    "K>EL>ELY>EM>EN>ENY>O>OO>NIKOLSBURG OE>RUDIMENTA OE>OEE>EP>EMP>ER>ouER>ES>ESZ>ET>ENT>ETY>ECH>U",
    ">UU>NIKOLSBURG UE>RUDIMENTA UE>EV>EZ>EZS>ENT-SHAPEDf>US"]),
  (0x10CFA, [":odHUNGARIANnpkd=kq=mr=qx=kdlg>lq:HANIFI ROHINGYAbA=BA=PA=TA=ox=JA=CA=HA=nn=FA=DA=oy",
    "=RA=RRA=ZA=SA=nb=KA=GA=LA=MA=NA=WA=KINNA WA=YA=KINNA YA=na=nl=VA<lhA=I=U=E=O<kgSAKIN=NA KHONN",
    "A<fHARBAHAY=TAHALA=TANA=TASSI"]),
  (0x10D30, [":HANIFI ROHINGYAlumk=kd=kb=ki=km=kq=kz=le=la=li"]),
  (0x10E60, [":RUMIlukd<kb<ki<km<kq<kz<le<la<li;npmr<pz<tn<uh<qx<uy<qv<vu<qk<kdlg<kblg<kilg<kmlg<k",
    "qlg<kzlg<lelg<lalg<lilg;twkdlf=qy=THIRD<kbTHIRDS"]),
  (0x10E80, [":YEZIDIbELIF<BE<PE<PHE<THE<SE<CIM<CHIM<CHHIM<HHA<XA<DAL<ZAL<RA<RHA<ZA<JA<SIN<rr<SAD<",
    "DAD<TA<ZE<EYN<XHEYN<FA<VA=tad<QAF<KAF<KHAF<GAF<LAM<MIM<pd<UM<qj<OW<EW<HAY<YOT<ET"]),
  (0x10EAB, [":YEZIDIpjppkg<MADDAkg;HYPHENATIONkg"]),
  (0x10EB0, [":YEZIDIbLAMakhi<YOTamsi"]),
  (0x10F00, [":odSOGDIANbur=keur=BETH=keBETH=vh=HE=keHE=qj=ZAYIN=HETH=YODH=KAPH=vx=MEM=pd=kepd?akw",
    "on=vo=AYIN=taAYIN=PE=SADHE=keSADHE?akwon=RESH-AYIN-DALETH=rr=TAW=keTAW?akwon<npkd=kb=ki=km=kq",
    "=mr=pz=tn=kdlg<twkdlf<qnAYIN-DALETH"]),
  (0x10F30, [":SOGDIANbur<BETH<vh<HE<qj<ZAYIN<HETH<YODH<KAPH<vx<MEM<pd<vo<AYIN<PE<SADHE<RESH-AYIN<",
    "rr<TAW<FETH<LESH;yyrr;pjkhkc<kblmkc<khi<kblmi<ufi=kc<kni=kc<moknkc<RESHkc<kokc;npkd<mr<pz<kdl",
    "g;pqkbkwBARS?alm<lnakh<kbwqalm<lflnakh"]),
  (0x10F70, [":odUYGHURbur=BETH=GIMEL-HETH=qj=ZAYIN=keHETH=YODH=KAPH=vx=MEM=pd=vo=PE=SADHE=RESH=rr",
    "=TAW=LESH<pjkhi>kc=kblmi?kc<pqlb=kbBARS>lm=kmlm"]),
  (0x10FB0, [":CHORASMIANbur<cur<BETH<vh<DALETH<HE<qj<CURLEDqj<ZAYIN<HETH<YODH<KAPH<vx<MEM<pd<vo<A",
    "YIN<PE<RESH<rr<TAW;npkd<kb<ki<km<mr<pz<kdlg"]),
  (0x10FE0, [":ELYMAICbur<BETH<vh<DALETH<HE<qj<ZAYIN<HETH<TETH<YODH<KAPH<vx<MEM<pd<vo<AYIN<PE<SADH",
    "E<QOPH<RESH<rr<TAW;qnZAYIN-YODH"])
]

end MetesBounds.Text.CharName
