import MetesBounds.Text.CharName.Block

/-!
# `Text/CharName/Indic` — the names of the scripts of India
-/

set_option autoImplicit false

namespace MetesBounds.Text.CharName

/-- Names of the scripts of India. -/
def indic : List Block := [
  (0x11000, [":BRAHMIfrh<ow<qp<zp<zs;bA<AA<I<II<U<UU<ofR=RR=L=LL<E<AI<O<AU<KA<nn<GA<oz<na<CA<nk<JA",
    "<JHA<nl<ox<px<oy<qb<pm<TA<nw<DA<pa<NA<PA<om<BA<pn<MA<YA<RA<LA<VA<nb<py<SA<HA<LLA<odthLLLA>RRA",
    ">NNNA;lhfAA=BHATTIPROLU AA=I=II=U=UU=ofR>RR>L>LL=E=AI=O=AU;qa;rp;kfrp;pqkh<kfkh<mw<CRESCENTlb",
    "<LOTUS"]),
  (0x11052, [":BRAHMInpkd<kb<ki<km<kq<kz<le<la<li<mr<pz<tn<uh<qx<uy<qv<vu<qk<kdlg=lq;lumk<kd<kb<ki",
    "<km<kq<kz<le<la<li;fodthqa;bodthouE?O;lhfodthouE?ouO;bodthLLA"]),
  (0x1107F, [":BRAHMInpJOINER:KAITHIfrh<ow<qp;bA<AA<I<II<U<UU<E<AI<O<AU<KA<nn<GA<oz<na<CA<nk<JA<JH",
    "A<nl<ox<px<oy<DDDHA<qb<RHA<pm<TA<nw<DA<pa<NA<PA<om<BA<pn<MA<YA<RA<LA<VA<nb<py<SA<HA;lhfAA=I=I",
    "I=U=UU=E=AI=O=AU;fqa<sp;ucf;ENUMERATIONf;npf;svkg;kfsvkg;rp;kfrp;lhfofR"]),
  (0x110CD, [":KAITHInpfi"]),
  (0x110D0, [":SORA SOMPENGbSAH=TAH=BAH=CAH=DAH=GAH=MAH=NGAH=LAH=NAH=VAH=PAH=YAH=RAH=me=KAH=JAH=NY",
    "AH=AH=EEH=IH=UH=OH=EH=MAE"]),
  (0x110F0, [":SORA SOMPENGlumk=kd=kb=ki=km=kq=kz=le=la=li"]),
  (0x11100, [":CHAKMAfrh<ow<qp;bAA<I<U<E<KAA<KHAA<GAA<GHAA<NGAA<CAA<CHAA<JAA<JHAA<NYAA<TTAA<TTHAA<",
    "DDAA<DDHAA<NNAA<TAA<THAA<DAA<DHAA<NAA<PAA<PHAA<BAA<BHAA<MAA<YYAA<YAA<RAA<LAA<WAA<SAA<HAA;lhfA",
    "=I=II=U=UU=E=AI=O=AU=OI;Okg;AUkg;qa;MAAYYAA"]),
  (0x11136, [":CHAKMAlumk<kd<kb<ki<km<kq<kz<le<la<li;svkg;rp;kfrp;rwkg;bLHAA;lhfAA=EI;bVAA"]),
  (0x11150, [":MAHAJANIbA<I<U<E<O<KA<nn<GA<oz<CA<nk<JA<JHA<nl<ox<px<oy<qb<pm<TA<nw<DA<pa<NA<PA<om<",
    "BA<pn<MA<RA<LA<VA<SA<HA<RRA;fsp;ucf;svkg;qnSHRI"]),
  (0x11180, [":SHARADAfrh<ow<qp;bA<AA<I<II<U<UU<ofR=RR=L=LL<E<AI<O<AU<KA<nn<GA<oz<na<CA<nk<JA<JHA<",
    "nl<ox<px<oy<qb<pm<TA<nw<DA<pa<NA<PA<om<BA<pn<MA<YA<RA<LA<LLA<VA<nb<py<SA<HA;lhfAA=I=II=U=UU=o",
    "fR>RR>L>LL=E=AI=O=AU;fqa<vd<zp<zs;OM;rp;kfrp;ucf;rg;SANDHIkg;fsp;lhrekg;EXTRAoulhkg;SUTRAkg;l",
    "hfPRISHTHAMATRA E;fnmrh;lumk<kd<kb<ki<km<kq<kz<le<la<li;EKAM;fSIDDHAM;HEADSTROKE;CONTINUATION",
    "f;svMARK-1@"]),
  (0x111E1, [":xdtulukd=kb=ki=km=kq=kz=le=la=li<npmr=pz=tn=uh=qx=uy=qv=vu=qk=kdlg>lq"]),
  (0x11200, [":KHOJKIbA<AA<I<U<E<AI<O<AU<KA<nn<GA<GGA<oz<na<CA<nk<JA<JJA"]),
  (0x11213, [":KHOJKIbnl<ox<px<oy<qb<pm<TA<nw<DA<DDDA<pa<NA<PA<om<BA<BBA<pn<MA<YA<RA<LA<VA<SA<HA<L",
    "LA;lhfAA=I=II=U=E=AI=O=AU;fow<qa<sp<SHADDA;rp;kfrp;WORDrg;svkg;kfsvkg;ucf;fSUKUN"]),
  (0x11280, [":MULTANIbA<I<U<E<KA<nn<GA"]),
  (0x11288, [":MULTANIboz"]),
  (0x1128A, [":MULTANIbCA<nk<JA<JJA"]),
  (0x1128F, [":MULTANIbnl<ox<px<oy<DDDA<qb<pm<TA<nw<DA<pa<NA<PA<om<BA"]),
  (0x1129F, [":MULTANIbpn<MA<YA<RA<LA<VA<SA<HA<RRA<RHA;svkg"]),
  (0x112B0, [":KHUDAWADIbA<AA<I<II<U<UU<E<AI<O<AU<KA<nn<GA<GGA<oz<na<CA<nk<JA<JJA<JHA<nl<ox<px<oy<",
    "DDDA<RRA<qb<pm<TA<nw<DA<pa<NA<PA<om<BA<BBA<pn<MA<YA<RA<LA<VA<nb<SA<HA;fow;lhfAA=I=II=U=UU=E=A",
    "I=O=AU;fsp<qa"]),
  (0x112F0, [":KHUDAWADIlumk<kd<kb<ki<km<kq<kz<le<la<li"]),
  (0x11300, [":vwfpjowi<rh<ow<qp"]),
  (0x11305, [":vwbA<AA<I<II<U<UU<ofR=L"]),
  (0x1130F, [":vwbEE<AI"]),
  (0x11313, [":vwbOO<AU<KA<nn<GA<oz<na<CA<nk<JA<JHA<nl<ox<px<oy<qb<pm<TA<nw<DA<pa<NA"]),
  (0x1132A, [":vwbPA<om<BA<pn<MA<YA<RA"]),
  (0x11332, [":vwbLA<LLA"]),
  (0x11335, [":vwbVA<nb<py<SA<HA"]),
  (0x1133B, [":pjBINDUkc:vwfsp<vd;lhfAA=I=II=U=UU=ofR>RR"]),
  (0x11347, [":vwlhfEE=AI"]),
  (0x1134B, [":vwlhfOO=AU;fqa"]),
  (0x11350, [":vwOM"]),
  (0x11357, [":vwAUvykg"]),
  (0x1135D, [":vwfPLUTA;bVEDICow=kfow<ofRR=LL;lhfofL>LL"]),
  (0x11366, [":pjvwlumk=kd=kb=ki=km=kq=kz"]),
  (0x11370, [":pjvwbA=KA=NA=VI=PA"]),
  (0x11400, [":NEWAbA<AA<I<II<U<UU<ofR=RR=L=LL<E<AI<O<AU<KA<nn<GA<oz<na<NGHA<CA<nk<JA<JHA<nl<NYHA<",
    "ox<px<oy<qb<pm<TA<nw<DA<pa<NA<NHA<PA<om<BA<pn<MA<MHA<YA<RA<RHA<LA<LHA<WA<nb<py<SA<HA;lhfAA=I=",
    "II=U=UU=ofR>RR>L>LL=E=AI=O=AU;fqa<rh<ow<qp<sp<vd<keow;OM;SIDDHI;rp;kfrp;nv;GAP FILLER;ucf;lum",
    "k<kd<kb<ki<km<kq<kz<le<la<li;kfnv;PLACEHOLDERkg"]),
  (0x1145D, [":NEWA INSERTIONf;SANDHIkg;bVEDICow;fzp<zs"]),
  (0x11480, [":TIRHUTA ANJI;bA<AA<I<II<U<UU<ofR=RR=L=LL<E<AI<O<AU<KA<nn<GA<oz<na<CA<nk<JA<JHA<nl<o",
    "x<px<oy<qb<pm<TA<nw<DA<pa<NA<PA<om<BA<pn<MA<YA<RA<LA<VA<nb<py<SA<HA;lhfAA=I=II=U=UU=ofR>RR>L>",
    "LL=E=ouE=AI=O=ouO=AU;frh<ow<qp<qa<sp<vd;GVANG;ucf;OM"]),
  (0x114D0, [":TIRHUTAlumk<kd<kb<ki<km<kq<kz<le<la<li"]),
  (0x11580, [":SIDDHAMbA<AA<I<II<U<UU<ofR=RR=L=LL<E<AI<O<AU<KA<nn<GA<oz<na<CA<nk<JA<JHA<nl<ox<px<o",
    "y<qb<pm<TA<nw<DA<pa<NA<PA<om<BA<pn<MA<YA<RA<LA<VA<nb<py<SA<HA;lhfAA=I=II=U=UU=ofR>RR"]),
  (0x115B8, [":SIDDHAMlhfE=AI=O=AU;frh<ow<qp<qa<sp<SIDDHAM;rp;kfrp;rgkh<lb;REPETITION MARK-1@@;END",
    " OF TEXTkg;svkgaTRIDENTgU-SHAPED ORNAMENTS?gqeyv>RAYSgqeyv?gqekfyv?gqepfyv=kfma?aRAYS=akfyv>p",
    "fyv>xxyv>SEPTUPLEyv>wqgRAYS?gkbENCLOSURES?gkmENCLOSURES;bTHREE-CIRCLEtaI<TWO-CIRCLEtaI>II<taU",
    ";lhftaU>UU"]),
  (0x11600, [":MODIbA<AA<I<II<U<UU<ofR=RR=L=LL<E<AI<O<AU<KA<nn<GA<oz<na<CA<nk<JA<JHA<nl<ox<px<oy<q",
    "b<pm<TA<nw<DA<pa<NA<PA<om<BA<pn<MA<YA<RA<LA<VA<nb<py<SA<HA<LLA;lhfAA=I=II=U=UU=ofR>RR>L>LL=E=",
    "AI=O=AU;fow<qp<qa<ARDHACANDRA;rp;kfrp;ucf;fHUVA"]),
  (0x11650, [":MODIlumk<kd<kb<ki<km<kq<kz<le<la<li"]),
  (0x11660, [":MONGOLIAN BIRGAaot;nrBIRGA;kfBIRGAaot;pfBIRGAaot;BIRGAakfot;nrBIRGAaot>kfot;nmBIRGA",
    "=akfot;SWIRL BIRGA=aot>kfot;mqSWIRL BIRGAakfot"]),
  (0x11680, [":TAKRIbA<AA<I<II<U<UU<E<AI<O<AU<KA<nn<GA<oz<na<CA<nk<JA<JHA<nl<ox<px<oy<qb<pm<TA<nw<",
    "DA<pa<NA<PA<om<BA<pn<MA<YA<RA<LA<VA<nb<SA<HA<RRA;fow<qp;lhfAA=I=II=U=UU=E=AI=O=AU;fqa<sp;btun",
    "n;ucf"]),
  (0x116C0, [":TAKRIlumk<kd<kb<ki<km<kq<kz<le<la<li"]),
  (0x11700, [":AHOMbKA<nn<na<NA<TA<taTA<PA<om<BA<MA<JA<nk<nw<RA<LA<SA<nl<HA<A<DA<pa<GA<taGA<oz<pn<",
    "JHA<taBA"]),
  (0x1171D, [":AHOMtbfmiLA>RA>LIGATING RA;lhfA=AA=I=II=U=UU=E=AW=O=AI=AM;fKILLER"]),
  (0x11730, [":AHOMlumk<kd<kb<ki<km<kq<kz<le<la<li;npmr<pz;fcsv<sv<RULAI;kpVI;bCA<ox<px<oy<qb<pm<L",
    "LA"]),
  (0x11800, [":DOGRAbA<AA<I<II<U<UU<E<AI<O<AU<KA<nn<GA<oz<na<CA<nk<JA<JHA<nl<ox<px<oy<qb<pm<TA<nw<",
    "DA<pa<NA<PA<om<BA<pn<MA<YA<RA<LA<VA<nb<py<SA<HA<RRA;lhfAA=I=II=U=UU=ofR>RR=E=AI=O=AU;fow<qp<q",
    "a<sp;ucf"]),
  (0x118A0, [":WARANG CITIebNGAA>A>WI>YU>YA>YO>II>UU>E>O>ANG>GA>KO>ENY>YUJ>UC>ENN>ODD>TTE>NUNG>DA>",
    "AT>AM>BU>PU>HIYO>HOLO>HORR>HAR>SSUU>SII>VIYO<cbNGAA>A>WI>YU>YA>YO>II>UU>E>O>ANG>GA>KO>ENY>YUJ",
    ">UC>ENN>ODD>TTE>NUNG>DA>AT>AM>BU>PU>HIYO>HOLO>HORR>HAR>SSUU>SII>VIYO<lumk=kd=kb=ki=km=kq=kz=l",
    "e=la=li<npmr=pz=tn=uh=qx=uy=qv=vu=qk"]),
  (0x118FF, [":WARANG CITI OM:DIVES AKURUbA=AA=I=II=U=UU=E"]),
  (0x11909, [":DIVES AKURUbO"]),
  (0x1190C, [":DIVES AKURUbKA=nn=GA=oz=na=CA=nk=JA"]),
  (0x11915, [":DIVES AKURUbnl=ox"]),
  (0x11918, [":DIVES AKURUboy=qb=pm=TA=nw=DA=pa=NA=PA=om=BA=pn=MA=YA=YYA=RA=LA=VA=nb=py=SA=HA=LLA=",
    "ZA<lhfAA>I>II>U>UU>E"]),
  (0x11937, [":DIVES AKURUlhfAI>O"]),
  (0x1193B, [":DIVES AKURUfow=rh=HALANTA<qa<PREFIXED NASALf<miYA<krRA<miRA<fsp<kfrp<GAP FILLER<END",
    " OF TEXTkg"]),
  (0x11950, [":DIVES AKURUlumk=kd=kb=ki=km=kq=kz=le=la=li"]),
  (0x119A0, [":NANDINAGARIbA<AA<I<II<U<UU<ofR=RR"]),
  (0x119AA, [":NANDINAGARIbE<AI<O<AU<KA<nn<GA<oz<na<CA<nk<JA<JHA<nl<ox<px<oy<qb<pm<TA<nw<DA<pa<NA<",
    "PA<om<BA<pn<MA<YA<RA<LA<VA<nb<py<SA<HA<LLA<RRA;lhfAA=I=II=U=UU=ofR>RR"]),
  (0x119DA, [":NANDINAGARIlhfE=AI=O=AU;fow<qp<qa<vd<SIDDHAM;HEADSTROKE;lhfPRISHTHAMATRA E"]),
  (0x11A00, [":ZANABAZARllbA<lhfI>UE>U>E>OE>O>AI>AU>myI=vykg<bKA=nn=GA=oz=na=CA=nk=JA=nl=ox=px=oy=",
    "qb=pm=TA=nw=DA=pa=NA=PA=om=BA=pn=MA=TSA=TSHA=DZA=DZHA=ZHA=ZA=-A=YA=RA=LA=VA=nb=py=SA=HA=KSSA<",
    "ketbkg<fqa=rh>aot=vsaot=ow=qp<CLUSTER-INITIALbRA<CLUSTER-FINALbYA>RA>LA>VA<krHEADkg<CLOSING H",
    "EADkg<kgTSHEG=SHAD=kfSHAD=moTSHEG<krDOUBLE-LINED HEADkg<CLOSING DOUBLE-LINED HEADkg<SUBJOINE",
    "R"]),
  (0x11A50, [":SOYOMBObA;lhfI=UE=U=E=O=OE=AI=AU=ofR>L<vykg;bKA<nn<GA<oz<na<CA<nk<JA<JHA<nl<ox<px<o",
    "y<qb<pm<TA<nw<DA<pa<NA<PA<om<BA<pn<MA<TSA<TSHA<DZA<ZHA<ZA<-A<YA<RA<LA<VA<nb<py<SA<HA<KSSA;fzp",
    "<zs;CLUSTER-INITIALbRA=LA=nb=SA;ketbfG>K>NG>D>N>B>M>R>L>SH>S>-A;fow<qp;GEMINATIONkg;SUBJOINER",
    ";kgTSHEG<SHAD<kfSHAD<PLUTA;HEADkgaslgSUNgpfFLAME?gSUNgFLAME?gSUN;TERMINAL MARK-1@"]),
  (0x11AB0, [":CANADIAN SYLLABICS NATTILIK HI=HII=HO=HOO=HA=HAA=SHRI=SHRII=SHRO=SHROO=SHRA=SHRAA<S",
    "PE<SPI<SPO<SPA:PAU CIN HAUbPA>KA>LA>MA>DA>ZA>VA>na>HA>GA>nn>SA>BA>CA>TA>nw>NA>om>RA>FA>nk>A>E",
    ">I>O>U>UA>IA>keP?K?T?M?N?L?W?NG?Y=xbmumo?=SANDHIrznd=xbmumoke?ke=SANDHIrzndke>mumo??moke?ke=M",
    "ID-LEVELmu=rzndtp=MID-LEVELmumoke?ke=LOW-FALLINGmumo?=rznd=LOW-FALLINGmumoke?ke=rzndke"]),
  (0x11C00, [":BHAIKSUKIbA<AA<I<II<U<UU<ofR=RR=L"]),
  (0x11C0A, [":BHAIKSUKIbE<AI<O<AU<KA<nn<GA<oz<na<CA<nk<JA<JHA<nl<ox<px<oy<qb<pm<TA<nw<DA<pa<NA<PA",
    "<om<BA<pn<MA<YA<RA<LA<VA<nb<py<SA<HA;lhfAA=I=II=U=UU=ofR>RR>L"]),
  (0x11C38, [":BHAIKSUKIlhfE=AI=O=AU;frh<ow<qp<qa<vd;rp;kfrp;WORDrg;GAP FILLER-1@"]),
  (0x11C50, [":BHAIKSUKIlumk<kd<kb<ki<km<kq<kz<le<la<li;npkd<kb<ki<km<kq<kz<le<la<li<mr<pz<tn<uh<q",
    "x<uy<qv<vu<qk;HUNDREDS UNITkg"]),
  (0x11C70, [":MARCHEN HEADkg;kgSHAD;bKA<nn<GA<na<CA<nk<JA<nl<TA<nw<DA<NA<PA<om<BA<MA<TSA<TSHA<DZA",
    "<WA<ZHA<ZA<-A<YA<RA<LA<nb<SA<HA<A"]),
  (0x11C92, [":MARCHENzebKA=nn=GA=na=CA=nk=JA=nl=TA=nw=DA=NA=PA=om=BA=MA=TSA=TSHA=DZA=WA=ZHA=ZA"]),
  (0x11CA9, [":MARCHENzebYA=RA=LA=nb=SA=HA=A;lhfAA=I=U=E=O;fow<rh"]),
  (0x11D00, [":MASARAM GONDIbA=AA=I=II=U=UU=E"]),
  (0x11D08, [":MASARAM GONDIbAI=O"]),
  (0x11D0B, [":MASARAM GONDIbAU=KA=nn=GA=oz=na=CA=nk=JA=JHA=nl=ox=px=oy=qb=pm=TA=nw=DA=pa=NA=PA=om",
    "=BA=pn=MA=YA=RA=LA=VA=nb=py=SA=HA=LLA=KSSA=JNYA=TRA<lhfAA>I>II>U>UU>ofR"]),
  (0x11D3A, [":MASARAM GONDIlhfE"]),
  (0x11D3C, [":MASARAM GONDIlhfAI>O"]),
  (0x11D3F, [":MASARAM GONDIlhfAU<fow=qp=sp=vs=HALANTA<qa<REPHA<RA-KARA"]),
  (0x11D50, [":MASARAM GONDIlumk=kd=kb=ki=km=kq=kz=le=la=li"]),
  (0x11D60, [":GUNJALA GONDIbA=AA=I=II=U=UU"]),
  (0x11D67, [":GUNJALA GONDIbEE=AI"]),
  (0x11D6A, [":GUNJALA GONDIbOO=AU=YA=VA=BA=pn=MA=KA=nn=TA=nw=LA=GA=oz=DA=pa=NA=CA=nk=ox=px=LLA=JA",
    "=JHA=oy=qb=na=PA=om=HA=RA=SA<lhfAA>I>II>U>UU"]),
  (0x11D90, [":GUNJALA GONDIlhfEE>AI"]),
  (0x11D93, [":GUNJALA GONDIlhfOO>AU<fow=qp<qa<OM"]),
  (0x11DA0, [":GUNJALA GONDIlumk=kd=kb=ki=km=kq=kz=le=la=li"]),
  (0x11EE0, [":MAKASARbKA<GA<na<PA<BA<MA<TA<DA<NA<CA<JA<nl<YA<RA<LA<VA<SA<A;ANGKA;lhfI=U=E=O;PASSI",
    "MBANG;END OFsv"]),
  (0x11FB0, [":LISUbYHA"]),
  (0x11FC0, [":thtwkdTHREE-HUNDRED-AND-TWENTIETH=ONE-HUNDRED-AND-SIXTIETH=EIGHTIETH=SIXTY-FOURTH=F",
    "ORTIETH=THIRTY-SECOND<kiEIGHTIETHS=SIXTY-FOURTHS<kdTWENTIETH=SIXTEENTH-1@=TENTH=sf<kiTWENTIET",
    "HS=SIXTEENTHS<kdFIFTH=qy=HALF-1@<kiwc<DOWNSCALING FACTOR KIIZH;fNEL<CEVITU<AAZHAAKKU<UZHAKKU<",
    "MUUVUZHAKKU<KURUNI<PATHAKKU<MUKKURUNI<KAACU<PANAM<PON<VARAAKAN<PAARAM<KUZHI<VELI;WET CULTIVAT",
    "IONf;DRY CULTIVATIONf;LANDf;SALT PANf;TRADITIONAL CREDITf<npf;CURRENTf;gODDf;SPENTf;TOTALf;IN",
    " POSSESSIONf;STARTINGrjf;fMUTHALIYA<VAKAIYARAA"]),
  (0x11FFF, [":thpqEND OF TEXT"])
]

end MetesBounds.Text.CharName
