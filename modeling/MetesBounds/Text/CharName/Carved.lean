import MetesBounds.Text.CharName.Block

/-!
# `Text/CharName/Carved` — the names of cuneiform, hieroglyphs and Anatolian signs
-/

set_option autoImplicit false

namespace MetesBounds.Text.CharName

/-- Names of cuneiform, hieroglyphs and Anatolian signs. -/
def carved : List Block := [
  (0x12000, [":CUNEIFORMfA=kyA>BAD>GAN2pv>HA>IGI>LAGARop>MUSH>SAG<A2<AB=kyASH2>DUN3op>GAL>GAN2pv>H",
    "A>IGIop>IMIN>LAGAB>SHESH>UkvUkvU=op<AB2=kyBALAG>GAN2pv>MEkvEN>SHA3>TAK4<AD<AK=kyERIN2>SHITAkv",
    "GISH<AL=kyAL>DIM2>GISH>HA>KAD3>KI>SHE>USH<ALAN<ur<AMAR=kySHE<AN=loAN=kiky=kvNAGA OPPOSING ANk",
    "vNAGA?qo<ANSHE<APIN<ARAD=kyKUR<ARKAB<ASAL2<pc=ZIDApv=KABApv=lopcTUG2loTUG2 TUG2loTUG2 PAP?lop",
    "c?lopcripclopclopc<ASH2<ASHGAB<BA<BAD<BAG3<BAHAR2<BAL=loBAL<BALAG<lb<BARA2<BI=kyA>GAR>IGIop<B",
    "U=loBU AB?UN=riBU<BULUG=loBULUG<BUR<BUR2<DA<DAG=KISIM5kyAkvMASH?AMAR?BALAG?BI?GA?GAkvMASH?GI?",
    "GIR2?GUD?HA?IR?IRkvLU?KAK?LA?LU?LUkvMASH2?LUM?NE?PAPkvPAP?SI?TAK4?U2kvGIR2?USH<DAM<DAR<DARA3@",
    "<DI<DIB<DIM=kySHE<DIM2<DIN=KASKAL Uoptd<td<DU=loDU=op=SHESHIG<DUB=kyESH2<DUB2<DUG<DUGUD<DUH<D",
    "UN<DUN3=op>op<DUN4<DUR2<E=kyPAP=loEpdlopd<E2=kyAkvHAkvDA>GAR>MI>SAL>SHE>U<EDIN<EGIR<EL<EN=kyG",
    "AN2?pv>ME=riEN=OPPOSING EN=qo<EREN<ERIN2<ESH2<EZEN=kyA?kvLAL?kvLALkyLAL>AN>BAD>DUN3op?opop>HA",
    "?op>IGIop>KASKAL?qo>KU3>LA>LALkyLAL>LI>LU>U2>UD<GA=op<GA2=kyAkvDAkvHA?kvHA?kvIGI>AB2pvkvTAB>A",
    "N>pc>ASH2kvGAL>BAD>lbkvRA>BUR?kvRA>DA>DI>DIMkySHE>DUB>EL?kvLA>EN?kyGAN2pv>GAN2pv>GAR>GI>GI4?k",
    "vA>GIR2kvSU>HAkvLUkvESH2>HAL?kvLA>HIkvLI>HUB2>IGIop>ISHkvHUkvpc>KAK>KASKAL>KID?kvLAL>KU3kvAN>",
    "LA>MEkvEN>MI>pd?lopd>PA>SAL>SAR>SHE?kvTUR>SHID>SUM>TAK4>U>UD?kvDU=loGA2<GABA=riGABA<GAD=loGAD",
    " GARloGAR<GAL=GADloGAD GARloGAR<GALAM<GAM<GAN<GAN2=pv=loGAN2=riGAN2<GAR<GAR3<GASHAN<GESHTIN=k",
    "yKUR<GI=kyE>U=riGI<GI4=loGI4=riGI4<GIDIM<GIR2=op<GIR3=kyAkvIGI>GAN2pv>IGI>LUkvIGI>PA<GISAL<GI",
    "SH=riGISH=kyBAD>TAK4=pv<GU=riGU<GU2=kyKAK?kyIGIop>pd>SALkvTUG2=op<GUD=kyAkvKUR>KUR=loGUD LUGA",
    "L<GUL<GUM=kySHE<GUR<GUR7<GURUN<GURUSH<HA=pv=op<HAL<HI=kypc>ASH2>BAD>td>GAD>KIN>pd>SHE>U<HU<HU",
    "B2=kyAN>HAL>KASKAL>LISH>UD<HUL2<I=A<IB<IDIM=loIDIM BUR?qo<IG<IGI=DIB=RI=loIGI SHIRloSHIR UDlo",
    "UD=op<IL=kyGAN2pv<IL2<IM=kyTAK4=riIM=OPPOSING IM=qo<IMIN<IN<IR<ISH<KA=kyA>AD?kvKU3>ASH2>BAD>B",
    "ALAG>lb>BI>ERIN2>ESH2>GA>GAL>GAN2pv>GAR?kvSHA3kvA>GI>GIR2>GISHkvSAR?riGISH>GU>GUR7>IGI>IM>KAK",
    ">KI>KID>LI>LU>ME?kvDU?kvGI?kvTE>MI?kvNUNUZ>NE>pd>PI>RU>SA>SAR>nb>SHE>SHID>SHU>SIG>SUHUR>TAR>U",
    ">U2>UD>UMUMkyPA>USH>ZI<KA2=riKA2<KAB<KAD2@@@=loKAD5<KAK=kyIGIop<KAL=kyBAD=riKAL<KAM2<KAM4<KAS",
    "KAL=LAGABkyUloLAGABkyU=loKASKAL LAGABkyUloLAGABkyU<KESH2<KI=kyBAD>U>UD<KID<KIN<KISAL<KISH<KIS",
    "IM5=loKISIM5<KU=loHIkyASH2 KUloHIkyASH2<KU3@=tpd<KU7<KUL=op<KUN<KUR=OPPOSING KUR<KUSHU2<KWU31",
    "8<LA<LAGAB=kyA?kvDAkvHA?kvGAR?kvLAL>AL>AN>pcZIDApv>BAD>BI>DAR>EN>GA>GAR>GUD?kvGUD>HA>HAL>HIky",
    "pd>IGIop>IM?kvHA?kvLU>KI>KIN>KU3>KUL?kvHIkvA>LAGAB>LISH>LU>LUL>ME?kvEN>MUSH>NE>SHEkvSUM>SHITA",
    "kvGISHkvERIN2?kvGISHpv>SHU2?kvSHU2>SUM>TAG>TAK4>TEkvAkvSUkvNA>U?kvA?kvUkvU>U2kvpc>UD>USH=qo<L",
    "AGAR=kySHE?kvSUM=op>loLAGARopSHE<LAHSHU<LAL=kyLAL<LAM=kyKUR?kvRU<LI<LIL<LIMMU2<LISH<LU=kyBAD<",
    "LU2=kyAL>BAD>ESH2?pv>GAN2pv>HIkyBAD>IM>KAD2@?kvpc>KI>LAkvpc>LAGAB>MEkvEN>NE>NU>SIkvpc>SIK2kvB",
    "U>TUG2=pv=riLU2=OPPOSING LU2=qo=SHESHIG<LU3<LUGAL=loLUGAL=OPPOSING LUGAL=SHESHIG<LUH<LUL<LUM=",
    "loLUM?GARloGAR<MA=kyTAK4=op<MA2<MAH<MAR<MASH<MASH2<ME<MES<MI<MIN<MU=loMU<MUG=op<MUNSUB<MURGU2",
    "<MUSH=kyA>KUR>ZA=loMUSH?kyAkvNA=riMUSH<MUSH3=kyA?kvDI>DI=op<NA<NA2<NAGA=nm=kySHUpv=OPPOSING N",
    "AGA<NAGAR<NAM NUTILLU=<NAM2<NE=kyA>UD=SHESHIG<NI=kyE<NI2<NIM=kyGAN2pv>GARkvGAN2pv<NINDA2=kyAN",
    ">pc?kvpc>GUD>MEkvGAN2pv>NE>pd>SHE?kvA AN?kvpc?kvpckvpc>U2kvpc>USH<NISAG<NU<NU11<pd=LAGARkyGAR",
    "?MASH?SAL?SALlopdLAGARkySAL?USH=pv=lopd=ripd?LAGARloLAGAR<NUNUZ=AB2kyASHGAB?BI?DUG?GUD?IGIop?",
    "KAD3?LA?NE?SILA3?U2=KISIM5kyBI?BI U<PA<PAD<PAN<PAP<PESH2<PI=kyA>AB>BI>BU>E>I>IB>U>U2=riPI<PIR",
    "IG=kyKAL>UD>ZA=OPPOSING PIRIG<RA<RAB<RI<RU<SA<SAG NUTILLU==kyA>DU>DUB>HA>KAK>KUR>LUM>MI>pd>SA",
    "L>SHID>TAB>U2>UB>UM>UR>USH=loSAG=op<SAL=LAGABkyASH2<SANGA2<SAR<nb<SHA3=kyA>BAD>GISH>NE>SHU2>T",
    "UR>U?kvA<SHA6<SHAB6<SHAR2<SHE=HU=loSHE GADloGAD GARloGAR?TABloTAB GARloGAR<SHEG9<SHEN<SHESH<S",
    "HESH2<SHESHLAM<SHID=kyA>IM<SHIM=kyA>BAL>BULUG>DIN>GAR>IGI?op>KUSHU2>LUL>MUG>SAL<SHINIG<SHIR=p",
    "v=loSHIR BURloBUR<SHITA<SHU=lonmSHU<SHU2<SHUBUR<SI=op<SIG<SIG4=loSIG4 SHU2<SIK2<SILA3<SU=loSU",
    "<SUD<SUD2<SUHUR<SUM<SUMASH<SUR<SUR9<TA=pg=kyHI>MI=op<TAB=loTAB NIloNItdlotd=qo<TAG=kyBI>GUD>S",
    "HE>SHU>TUG2>UD<TAK4<TAR<TE=op<TI=pv<TIL<TIR=kyTAK4=loTIR?GADloGAD GARloGAR<TU<TUG2<TUK<TUM<TU",
    "R=loTUR ZAloZA<U=GUD=U U=loU PAloPA GARloGAR?SURloSUR?UmyloUmy<U2<UB<UD=KUSHU2=kyBAD>MI>UkvUk",
    "vU?kvUkvUop=op=SHESHIG>kyBAD<UDUG<UM=kyLAGAB>MEkvDA>SHA3>U<UMBIN<UMUM=kyKASKAL>PA<UN=op<UR=ri",
    "UR=SHESHIG<UR2=kyAkvHA?kvNA>AL>HA>pd>U2?kvpc?kvBI<UR4<URI<URI3<URU=kyA>ASHGAB>lb>DUN>GA>GAL>G",
    "AN2pv>GAR>GU>HA>IGI>IM>ISH>KI>LUM>MIN>PA>SHE>SIG4>TU>UkvGUD>UD>URUDA<URUDA=kyU<USH=kyA>KU>KUR",
    ">TAK4<USHX<USH2<USHUMX<UTUKI<UZ3=kyKASKAL<UZU<ZA=pv=qokyKUR<ZAG<ZAMX<ZE2<ZI=loZI<ZI3<ZIB=KABA",
    "pv<ZIG<ZIZ2<ZU<ZU5=kyA<ZUBUR<ZUM<KAP ELAMITE<ABkypd<AB2kyA<AMARkyKUG<DAG KISIM5kyU2kvMASH<DAG",
    "3<tdkvSHU<DUBkySHE<EZENkyGUD>SHE<GA2kyANkvKAKkvA>ASH2<GE22<GIG<HUSH<KAkyANSHE>ASH3>GISH>GUD>H",
    "IkyASH2>LUM>PA>SHUL>TU>UR2<LAGABkyGI<LU2 SHESHIGkyBAD=kyESH2kvLAL>SHU<MESH<MUSH3kyZA<NA4<NIN<",
    "NIN9<NINDA2kyBAL>GI<NU11nrqkos<PESH2pg<PIR2<SAGkyIGIop<TI2<UMkyME<U U"]),
  (0x12400, [":CUNEIFORM NUMERICfkbpc=kipc=kmpc=kqpc=kzpc=lepc=lapc=lipc=kitd=kmtd=kqtd=kztd=letd=",
    "latd=litd=kmU=kqU=kzU=leU=laU=liU=kdGESH2=kbGESH2=kiGESH2=kmGESH2=kqGESH2=kzGESH2=leGESH2=laG",
    "ESH2=liGESH2=kdGESHU=kbGESHU=kiGESHU=kmGESHU=kqGESHU=kbSHAR2=kiSHAR2?tpd=kmSHAR2=kqSHAR2=kzSH",
    "AR2=leSHAR2=laSHAR2=liSHAR2=kdSHARU=kbSHARU=kiSHARU?tpd=kmSHARU=kqSHARU=SHAR2kyGALkvtd?GALkvM",
    "IN=kdBURU=kbBURU=kiBURU?tpd=kmBURU=kqBURU=kitpdESH16?dESH21=kmtpdLIMMU?dLIMMU4?dLIMMU A?dLIMM",
    "U B=kztpdASH9=letpdIMIN3?dIMIN A?dIMIN B=latpdUSSU?dUSSU3=litpdILIMMU?dILIMMU3@?dILIMMU A=kbp",
    "cpv=kipcpv=kmpcpv=kqpcpv=kzpcpv=kdBAN2=kbBAN2=kiBAN2=kmBAN2?tpd=kqBAN2?tpd=NIGIDAMIN=NIGIDAES",
    "H=kdESHE3=kbESHE3=kdTHIRDtd=kbTHIRDStd=kqSIXTHStd=kdTHIRDtpdA=kbTHIRDStpdA=kdsfpc>qypc=odASSY",
    "RIANkdSIXTH?kdqy=kdqyGUR>lfGUR=ELAMITEkdTHIRD>kbTHIRDS>uh>qx=kmUtpd=kqUtpd=kzUtpd=leUtpd=laUt",
    "pd=liUtpd"]),
  (0x12470, [":CUNEIFORMpqfodASSYRIAN WORD DIVIDER=kwrb=pkrb>TRICOLON>QUADCOLON"]),
  (0x12480, [":CUNEIFORMfABkypdpv>SHU2<ADkyESH2<BADkytdpv<BAHAR2kyAB2>NI>ZA<BUloBUkyNA2<DAkyTAK4<D",
    "AGkyKUR<DIMkyIGI>U U U<DIM2kyUD<DUGkyANSHE>pc?ATka>DIN>DUN>ERIN2>GA>GI>GIR2op>GISH>HA>HI>IGIo",
    "p>KASKAL>KUR>KUSHU2?kvKASKAL>LAK-020>LAM?kyKUR>LUHkvGISH>MASH>MES>MI>NI>PI>SHE>SIop<E2kyKUR>P",
    "AP<ERIN2 X<ESH2riESH2<EZEN SHESHIGkypc?HI?IGIop?LA?LAL?ME?MES?SU=kySU<GA2kyBAHAR2>DIMop>DUGky",
    "IGIop?kyKASKAL>EREN>GA>GARkvDI?kvNE>HAkvA>KUSHU2kvKASKAL>LAM?kyKUR>LUH>MUSH>NE?kvE2?kvGI>SHIM",
    ">ZIZ2<GABAnrqkos<GESHTINkyU<GISHkyGISHriGISH<GU2kyIGIop<GUDkvGISHkyTAK4<HApvop<HIkypcloHIkypc",
    "<KAkyBU>KA>U U U>UR<LAGABkyZUloZU<LAK-003<LAK-021<LAK-025<LAK-030<LAK-050@<LAK-062<LAK-079loL",
    "AK-079op<LAK-080<LAK-081loLAK-081<LAK-092<LAK-130<LAK-142<LAK-210<LAK-219@<LAK-225<LAK-228<LA",
    "K-238<LAK-265@<LAK-343<LAK-347@<LAK-383@<LAK-390<LAK-441<LAK-449=kyGU>IGI>PAPkvLU3?kvPAPkvLU3",
    ">U2kvBA<LAK-450<LAK-457<LAK-470<LAK-483<LAK-490<LAK-492@<LAK-495<LAK-550<LAK-608<LAK-617=kypc",
    ">BAD>DUN3opop>KU3>LA>TAR>TE>U2>UD>URUDA<LAK-636<LAK-648=kyDUB>GA>IGI?op>NI>PAPkvPAPkvLU3>SHES",
    "HkvKI>UD>URUDA<LAK-724<LAK-749<LU2opkypc=kytd>HAL>PAP?kvPAPkvLU3>TAK4<MIkvZA7<MUSHloMUSHkyGA?",
    "kyKAK<NINDA2kyDIMop>GISH>GUL>HI>KESH2>LAK-050>MASH>PAPkvPAP>U?kvU>URUDA<SAGopkyHA=kyEN>SHE AT",
    "ka>TAK4<SHA6pv<SHEloSHE=kvHUB2>NAM2>SAR<SHU2kvDUGkyNI>E2kyAN<SIkyTAK4<TAK4kvSAG<TUMkyGAN2pv>k",
    "itd<UR2nm=kyUD<URUkyDARA3>LAK-668>LU3<ZA7<ZUloZUkvSAR<ZU5kykitdpv"]),
  (0x12F90, [":CYPRO-MINOANfCM001@<CM004@@@@@@@@<CM012B<CM013<CM015<CM017<CM019<CM021<CM023@@@@@@@",
    "<CM033@@@@@@@@<CM044<CM046@<CM049@@@@@@@<CM058@@@@@@<CM066@@@@@@@@@<CM075B<CM076<CM078@@@@@@@",
    "@@@@@@@<CM094@@@@@@@@@@@<CM107@@@<CM112<CM114<CM301@"]),
  (0x13000, [":EGYPTIAN HIEROGLYPH A001@@@@<A005A<A006<A006A<A006B<A007@@@@@@@<A014A<A015@@<A017A<",
    "A018@@@@@@@@@@@@@@<A032A<A033@@@@@@@<A040A<A041@<A042A<A043<A043A<A044@<A045A<A046@@@@@@@@@@@",
    "@@@@@@@@@@@@@<B001@@@@<B005A<B006@@@<C001@<C002A<C002B<C002C<C003@@@@@@@<C010A<C011@@@@@@@@@@",
    "@@@<D001@@@@@@@<D008A<D009@@@@@@@@@@@@@@@@@@<D027A<D028@@@<D031A<D032@@<D034A<D035@@@@@@@@@@@",
    "<D046A<D047@<D048A<D049@<D050A<D050B<D050C<D050D<D050E<D050F<D050G<D050H<D050I<D051@<D052A<D0",
    "53@<D054A<D055@@@@@@@@@@@@<D067A<D067B<D067C<D067D<D067E<D067F<D067G<D067H<E001@@@@@@@<E008A<",
    "E009<E009A<E010@@@@@@<E016A<E017<E017A<E018@@<E020A<E021@@@@@@@<E028A<E029@@@@@<E034A<E036@@<",
    "F001<F001A<F002@@@@@@@@@@@<F013A<F014@@@@@@@<F021A<F022@@@@@@@@@<F031A<F032@@@@@<F037A<F038<F",
    "038A<F039@@@@@@<F045A<F046<F046A<F047<F047A<F048@@@<F051A<F051B<F051C<F052@<G001@@@@@<G006A<G",
    "007<G007A<G007B<G008@@@<G011A<G012@@@@@@@@<G020A<G021@@@@@<G026A<G027@@@@@@@@@<G036A<G037<G03",
    "7A<G038@@@@@<G043A<G044@<G045A<G046@@@@@@@@<H001@@@@@<H006A<H007@<I001@@@@<I005A<I006@@@<I009",
    "A<I010<I010A<I011<I011A<I012@@@<K001@@@@@@@<L001@<L002A<L003@@@<L006A<L007@<M001<M001A<M001B<",
    "M002@<M003A<M004@@@@@@<M010A<M011@<M012A<M012B<M012C<M012D<M012E<M012F<M012G<M012H<M013@@<M01",
    "5A<M016<M016A<M017<M017A<M018@@@@<M022A<M023@<M024A<M025@@@<M028A<M029@@<M031A<M032@<M033A<M0",
    "33B<M034@@@@@@<M040A<M041@@@<N001@@@@@@@@@@@@@@@@@<N018A<N018B<N019@@@@@@<N025A<N026@@@@@@@<N",
    "033A<N034<N034A<N035<N035A<N036@<N037A<N038@@@@<NL001@@@@<NL005A<NL006@@@@@@@@@@@<NL017A<NL01",
    "8@@<NU001@@@@@@@@@<NU010A<NU011<NU011A<NU012@@@@@@<NU018A<NU019@@@<NU022A<O001<O001A<O002@@@<",
    "O005A<O006<O006A<O006B<O006C<O006D<O006E<O006F<O007@@@<O010A<O010B<O010C<O011@@@@@@@@<O019A<O",
    "020<O020A<O021@@@<O024A<O025<O025A<O026@@@<O029A<O030<O030A<O031@@<O033A<O034@@<O036A<O036B<O",
    "036C<O036D<O037@@@@@@@@@@@@@<O050A<O050B<O051<P001<P001A<P002@<P003A<P004@@@@@@@<Q001@@@@@@<R",
    "001@<R002A<R003<R003A<R003B<R004@@@@@@<R010A<R011@@@@@<R016A<R017@@@@@@@@@@@@<S001@<S002A<S00",
    "3@@@<S006A<S007@@@@@@@<S014A<S014B<S015@@<S017A<S018@@@@@@@@<S026A<S026B<S027@@@@@@@@<S035A<S",
    "036@@@@@@@@@@<T001@@<T003A<T004@@@<T007A<T008<T008A<T009<T009A<T010@<T011A<T012@@@@<T016A<T01",
    "7@@@@@@@@@@@@@@@<T032A<T033<T033A<T034@@<U001@@@@@<U006A<U006B<U007@@@@@@@@@@@@@@@@<U023A<U02",
    "4@@@@@<U029A<U030@@<U032A<U033@@@@@@@@@<V001<V001A<V001B<V001C<V001D<V001E<V001F<V001G<V001H<",
    "V001I<V002<V002A<V003@@@@<V007A<V007B<V008@@@<V011A<V011B<V011C<V012<V012A<V012B<V013@@@@@@@<",
    "V020A<V020B<V020C<V020D<V020E<V020F<V020G<V020H<V020I<V020J<V020K<V020L<V021@@<V023A<V024@@@@",
    "<V028A<V029<V029A<V030<V030A<V031<V031A<V032@<V033A<V034@@@<V037A<V038@@<V040A<W001@@<W003A<W",
    "004@@@@@<W009A<W010<W010A<W011@@@<W014A<W015@@<W017A<W018<W018A<W019@@@@@<W024A<W025<X001@@@<",
    "X004A<X004B<X005@<X006A<X007@<X008A<Y001<Y001A<Y002@@@@@@<Z001@<Z002A<Z002B<Z002C<Z002D<Z003<",
    "Z003A<Z003B<Z004<Z004A<Z005<Z005A<Z006@@@@@@@@@<Z015A<Z015B<Z015C<Z015D<Z015E<Z015F<Z015G<Z01",
    "5H<Z015I<Z016<Z016A<Z016B<Z016C<Z016D<Z016E<Z016F<Z016G<Z016H<AA001@@@@@@<AA007A<AA007B<AA008",
    "@@@@@@@@@@@@@@@@@@@@@@@@"]),
  (0x13430, [":EGYPTIAN HIEROGLYPHkwJOINER<lvJOINER<INSERT ATpwSTART>qzSTART>pwEND>qzEND<teks<BEGI",
    "N SEGMENT<END SEGMENT"]),
  (0x14400, [":ANATOLIAN HIEROGLYPH A001@@@@@@@@@<A010A<A011@@@@@@@@@@@@@@@<A026A<A027@@@@@@@@@@@@",
    "<A039A<A040@<A041A<A042@@@<A045A<A046<A046A<A046B<A047@@@@@@@@@@@@@@@@@@@<A066A<A066B<A066C<A",
    "067@@@@@@@@@@@@@@@@@@@@@@@@@@@@@@<A097A<A098<A098A<A099@<A100A<A101<A101A<A102<A102A<A103@<A1",
    "04A<A104B<A104C<A105<A105A<A105B<A106@<A107A<A107B<A107C<A108@@<A110A<A110B<A111@@@@<A115A<A1",
    "16@@@@@@@@@<A125A<A126@@@@@@@@@<A135A<A136@@@@@@@@@@@@@@@@@@@@@@@@@@@@@@@@@@@@@@@@@@@@@@@@@@@",
    "@@@@@@@@@@@@@@@<A202A<A202B<A203@@@@<A207A<A208@<A209A<A210@@@@@<A215A<A216<A216A<A217@@@@@@@",
    "@@@<A227A<A228@@@@@@@@@@@@@@@@@@@@@@@@@@@@@@@@@@@@@@@<A267A<A268@@@@@@@@@@@@@@@@@@@@@<A289A<A",
    "290@@@@<A294A<A295@@@@<A299A<A300@@@@@@@@@<A309A<A310@@@@@@@@@@@@@@@@@@@<A329A<A330@<A332A<A3",
    "32B<A332C<A333@@@<A336A<A336B<A336C<A337@@@@@@@@@@@@@@@@@@@@@@<A359A<A360@@@@<A364A<A365@@@<A",
    "368A<A369@@<A371A<A372@@@@@@@@@<A381A<A382<A383 RA OR RI<A383A<A384@@<A386A<A387@@@@@<A393la<",
    "A394@@@@@@@@@@@@@@@<A410 BEGIN LOGOGRAMkg<A410A END LOGOGRAMkg<A411@@@@@@@@@@@@@@@@@@@@@@@@@@",
    "@@@@@@@@@@@@@<A450A<A451@@@@@@<A457A<A458@@@@@@@@@@@@@@@@@@@@@@@@@@@@@@@@@@@@@@@<A501@@@@@@@@",
    "@@@@@@@@@@@@@@@@@@@@@"])
]

end MetesBounds.Text.CharName
