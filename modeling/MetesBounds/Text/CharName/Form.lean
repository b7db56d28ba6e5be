import MetesBounds.Text.CharName.Block

/-!
# `Text/CharName/Form` — the names of presentation forms
-/

set_option autoImplicit false

namespace MetesBounds.Text.CharName

/-- Names of presentation forms. -/
def form : List Block := [
  (0xFB00, [":ogcqnFF=FI=FL=FFI=FFL=moS T=ST"]),
  (0xFB13, [":ARMENIANcqnMEN NOW>ECH>INI=VEW NOW=MEN XEH"]),
  (0xFB1D, [":HEBREWbYODaHIRIQ;POINT JUDEO-SPANISH VARIKA;qnYIDDISH YOD YOD PATAH;bALTERNATIVE AYI",
    "N<WIDEls=DALET=HE=KAF=LAMED=keMEM=RESH=TAV<ALTERNATIVEkvf<rrarrkh>SINkh>tcgrrkh?gSINkh<lsaPAT",
    "AH>QAMATS>MAPIQ<BETatc<vhatc<DALETatc<HEaMAPIQ<VAVatc<ZAYINatc"]),
  (0xFB38, [":HEBREWbTETatc<YODatc<keKAFatc<KAFatc<LAMEDatc"]),
  (0xFB3E, [":HEBREWbMEMatc"]),
  (0xFB40, [":HEBREWbpdatc<voatc"]),
  (0xFB43, [":HEBREWbkePEatc<PEatc"]),
  (0xFB46, [":HEBREWbTSADIatc<QOFatc<RESHatc<rratc<TAVatc<VAVaHOLAM<BETaRAFE<KAFaRAFE<PEaRAFE;qnls",
    "LAMED:nxblsWASLAkkd>ked<BEEHkkd=ked=krd=mid<PEHkkd=ked=krd=mid<BEHEHkkd=ked=krd=mid<TTEHEHkkd",
    "=ked=krd=mid<TEHEHkkd=ked=krd=mid<TTEHkkd=ked=krd=mid<VEHkkd=ked=krd=mid<PEHEHkkd=ked=krd=mid",
    "<DYEHkkd=ked=krd=mid<NYEHkkd=ked=krd=mid<TCHEHkkd=ked=krd=mid<TCHEHEHkkd=ked=krd=mid<DDAHALkk",
    "d=ked<DAHALkkd=ked<DULkkd=ked<DDALkkd=ked<JEHkkd=ked<RREHkkd=ked<KEHEHkkd=ked=krd=mid<GAFkkd=",
    "ked=krd=mid<GUEHkkd=ked=krd=mid<NGOEHkkd=ked=krd=mid<qhGHUNNAkkd>ked<RNOONkkd=ked=krd=mid<HEH",
    "alpikkd?iked=GOALkkd>ked>krd>mid=DOACHASHMEEkkd>ked>krd>mid<lpBARREEkkd>ked>appikkd?ppiked;kp",
    "khi=kc<kblmi>kc<kilmi>kc>nglzi?lzkc<kmlmi>kc<kfkwlbkc<kblmzmi?kc<ma<cTAHi>kc<WASLAi"]),
  (0xFBD3, [":nxbNGkkd=ked=krd=mid<Ukkd=ked<OEkkd=ked<YUkkd=ked<Uappikkd<VEkkd=ked<KIRGHIZ OEkkd>k",
    "ed=YUkkd>ked<Ekkd=ked=krd=mid<UIGHUR KAZAKH KIRGHIZlsnjkrd?lsnjmid;qnlpappialskkd?ialsked?iaA",
    "Ekkd?iaAEked?iaqjkkd?iaqjked?iaUkkd?iaUked?iaOEkkd?iaOEked?iaYUkkd?iaYUked?iaEkkd?iaEked?iaEk",
    "rd<UIGHUR KIRGHIZlpappialsnjkkd?appialsnjked?appialsnjkrd;bFARSIlpkkd>ked>krd>mid;qnlpappiamn",
    "kkd?iamekkd?iakxkkd?ialsnjkkd?ialpkkd<BEHamnkkd>mekkd>okkkd>kxkkd>lsnjkkd>lpkkd<TEHamnkkd>mek",
    "kd>okkkd>kxkkd>lsnjkkd>lpkkd<THEHamnkkd>kxkkd>lsnjkkd>lpkkd<mnamekkd>kxkkd<meamnkkd>kxkkd<oka",
    "mnkkd>mekkd>kxkkd<sgamnkkd>mekkd>okkkd>kxkkd<SADamekkd>kxkkd<DADamnkkd>mekkd>okkkd>kxkkd<TAHa",
    "mekkd>kxkkd<ZAHakxkkd<AINamnkkd>kxkkd<uuamnkkd>kxkkd<FEHamnkkd>mekkd>okkkd>kxkkd>lsnjkkd>lpkk",
    "d<QAFamekkd>kxkkd>lsnjkkd>lpkkd<KAFalskkd>mnkkd>mekkd>okkkd>LAMkkd>kxkkd>lsnjkkd>lpkkd<LAMamn",
    "kkd>mekkd>okkkd>kxkkd>lsnjkkd>lpkkd<kxamnkkd>mekkd>okkkd>kxkkd>lsnjkkd>lpkkd<qhamnkkd>mekkd>o",
    "kkkd>kxkkd>lsnjkkd>lpkkd<HEHamnkkd>kxkkd>lsnjkkd>lpkkd<lpamnkkd>mekkd>okkkd>kxkkd>lsnjkkd>lpk",
    "kd<THALawmlskkd<REHawmlskkd<lsnjawmlskkd<SHADDAaDAMMATANkkd>KASRATANkkd>FATHAkkd>DAMMAkkd>KAS",
    "RAkkd>wmlskkd<lpappiaREHked?iaZAINked?iakxked?iaqhked?ialsnjked?ialpked<BEHaREHked>ZAINked>kx",
    "ked>qhked>lsnjked>lpked<TEHaREHked>ZAINked>kxked>qhked>lsnjked>lpked<THEHaREHked>ZAINked>kxke",
    "d>qhked>lsnjked>lpked<FEHalsnjked>lpked<QAFalsnjked>lpked<KAFalsked>LAMked>kxked>lsnjked>lpke",
    "d<LAMakxked>lsnjked>lpked<kxalsked>kxked<qhaREHked>ZAINked>kxked>qhked>lsnjked>lpked<lsnjawml",
    "sked<lpaREHked>ZAINked>kxked>qhked>lsnjked>lpked>ppiamnkrd?iamekrd?iaokkrd?iakxkrd?iaHEHkrd<B",
    "EHamnkrd>mekrd>okkrd>kxkrd>HEHkrd<TEHamnkrd>mekrd>okkrd>kxkrd>HEHkrd<THEHakxkrd<mnamekrd>kxkr",
    "d<meamnkrd>kxkrd<okamnkrd>kxkrd<sgamnkrd>mekrd>okkrd>kxkrd<SADamekrd>okkrd>kxkrd<DADamnkrd>me",
    "krd>okkrd>kxkrd<TAHamekrd<ZAHakxkrd<AINamnkrd>kxkrd<uuamnkrd>kxkrd<FEHamnkrd>mekrd>okkrd>kxkr",
    "d<QAFamekrd>kxkrd<KAFamnkrd>mekrd>okkrd>LAMkrd>kxkrd<LAMamnkrd>mekrd>okkrd>kxkrd>HEHkrd<kxamn",
    "krd>mekrd>okkrd>kxkrd<qhamnkrd>mekrd>okkrd>kxkrd>HEHkrd<HEHamnkrd>kxkrd>wmlskrd<lpamnkrd>mekr",
    "d>okkrd>kxkrd>HEHkrd>ppiakxmid?iaHEHmid<BEHakxmid>HEHmid<TEHakxmid>HEHmid<THEHakxmid>HEHmid<s",
    "gakxmid>HEHmid<uaakxmid>HEHmid<KAFaLAMmid>kxmid<LAMakxmid<qhakxmid>HEHmid<lpakxmid>HEHmid<SHA",
    "DDAaFATHAmid>DAMMAmid>KASRAmid<TAHalsnjkkd>lpkkd<AINalsnjkkd>lpkkd<uualsnjkkd>lpkkd<sgalsnjkk",
    "d>lpkkd<uaalsnjkkd>lpkkd<mealsnjkkd>lpkkd<mnalsnjkkd>lpkkd<okalsnjkkd>lpkkd<SADalsnjkkd>lpkkd",
    "<DADalsnjkkd>lpkkd<uaamnkkd>mekkd>okkkd>kxkkd>REHkkd<sgaREHkkd<SADaREHkkd<DADaREHkkd<TAHalsnj",
    "ked>lpked<AINalsnjked>lpked<uualsnjked>lpked<sgalsnjked>lpked<uaalsnjked>lpked<mealsnjked>lpk",
    "ed<mnalsnjked>lpked<okalsnjked>lpked<SADalsnjked>lpked<DADalsnjked>lpked<uaamnked>meked>okked",
    ">kxked>REHked<sgaREHked<SADaREHked<DADaREHked<uaamnkrd>mekrd>okkrd>kxkrd<sgaHEHkrd<uaaHEHkrd<",
    "TAHakxkrd<sgamnmid>memid>okmid<uaamnmid>memid>okmid<TAHakxmid<ZAHakxmid<lsaFATHATANked?kkd:OR",
    "NATEkapt;jpt:nxqnRAHIMAHU ALLAAH<RADI ALLAAHU ANH>ANHAA>ANHUM>ANHUMAA>ANHUNNA<SALLALLAAHU ALA",
    "YHI WA-AALIH<ALAYHI AS-SALAAM<ALAYHIM AS-SALAAM<ALAYHIMAA AS-SALAAM<ALAYHI AS-SALAATU WAS-SAL",
    "AAM<QUDDISA SIRRAH<SALLALLAHU ALAYHI WAAALIHEE WA-SALLAM<ALAYHAA AS-SALAAM<TABAARAKA WA-TAAAL",
    "AA<RAHIMAHUM ALLAAH<TEHamnakxkrd>meamnked?amnkrd?akxkrd>okakxkrd>kxamnkrd?amekrd?aokkrd<mnakx",
    "ameked?amekrd<meakxalpked?alsnjked<sgameamnkrd>mnamekrd?alsnjked>kxameked?amekrd?amnkrd?akxke",
    "d?akxkrd<SADameameked?amekrd>kxakxked<uaameakxked?akxkrd>mnalpked>kxaokked?aokkrd?akxked?akxk",
    "rd<DADamealsnjked>okakxked?akxkrd<TAHakxameked?amekrd?akxkrd?alpked<AINamnakxked>kxakxked?akx",
    "krd?alsnjked<uuakxakxked?alpked?alsnjked<FEHaokakxked?akxkrd<QAFakxameked?akxked<LAMameakxked",
    "?alpked?alsnjked>mnamnkrd?amnked>okakxked?akxkrd>kxameked?amekrd<kxameamnkrd?akxkrd?alpked>mn",
    "amekrd?akxkrd>okamnkrd?akxkrd"]),
  (0xFD92, [":nxqnkxamnaokkrd<HEHakxamnkrd?akxkrd<qhameakxkrd?alsnjked>mnakxked?akxkrd?alsnjked>kx",
    "alpked?alsnjked<lpakxakxked?akxkrd<BEHaokalpked<TEHamnalpked?alsnjked>okalpked?alsnjked>kxalp",
    "ked?alsnjked<mnakxalpked>mealsnjked>kxalsnjked<sgaokalsnjked<SADamealpked<uaamealpked<DADamea",
    "lpked<LAMamnalpked>kxalpked<lpamealpked>mnalpked>kxalpked<kxakxalpked<QAFakxalpked<qhamealpke",
    "d<QAFakxamekrd<LAMameakxkrd<AINakxalpked<KAFakxalpked<qhamnamekrd<kxaokalpked<LAMamnakxkrd<KA",
    "Fakxakxked<LAMamnakxked<qhamnameked<mnamealpked<meamnalpked<kxamnalpked<FEHakxalpked<BEHameal",
    "pked<KAFakxakxkrd<AINamnakxkrd<SADakxakxkrd<sgaokalpked<qhamnalpked"]),
  (0xFDCF, [":nxqnSALAAMUHU ALAYNAA"]),
  (0xFDF0, [":nxqnSALLA USED AS KORANICndfkkd<QALA USED AS KORANICndfkkd<ALLAHkkd<AKBARkkd<MOHAMMA",
    "Dkkd<SALAMkkd<RASOULkkd<ALAYHEkkd<WASALLAMkkd<SALLAkkd<SALLALLAHOU ALAYHE WASALLAM<JALLAJALAL",
    "OUHOU:RIALf:nxqnBISMILLAH AR-RAHMAN AR-RAHEEM<SUBHAANAHU WA TAAALAA<AZZA WA JALL:VARIATION SE",
    "LECTOR-1@@@@@@@@@@@@@@@:PRESENTATIONdqgkwnv>vjnv?ovnd>rb>xp>skkg>rwkg>kaklyolj>jklyoBRAKCET>l",
    "vELLIPSIS"]),
  (0xFE20, [":pjqnkalf<jlf;kflykalf=jlf;nokalf<jlf;CONJOININGno;qnkalfkc<jlfkc;lykalfkc<jlfkc;noka",
    "lfkc<jlfkc;CONJOININGnokc;wfTITLOkalf=jlf:PRESENTATIONdqgkwkbkhLEADER>EMps>ENps>mcmw>WAVYmcmw",
    ">kapt>jpt>kasilj>jsilj>kauqswlj>juqswlj>kakjyolj>jkjyolj>kakforlj>jkforlj>kaorlj>jorlj>karclj",
    ">jrclj>kaklrclj>jklrclj:SESAMEkh:klSESAMEkh:PRESENTATIONdqgkwkalllj>jlllj:wtOVERLINE:CENTRELI",
    "NE OVERLINE:WAVY OVERLINE:kfWAVY OVERLINE:wtmcmw:CENTRELINEmcmw:WAVYmcmw:cnv;vjnv;ovnd"]),
  (0xFE54, [":cxp;rb;rwkg;skkg;EMps;kapt;jpt;kasilj;jsilj;kauqswlj;juqswlj;npf;yt;pg;kvf;HYPHEN-MI",
    "NUS;nzf;obf;qrf"]),
  (0xFE68, [":ctfsx;DOLLARf;PERCENTf;COMMERCIAL AT"]),
  (0xFE70, [":nxFATHATANkkd;TATWEELaFATHATANi;DAMMATANkkd;onFRAGMENT;KASRATANkkd"]),
  (0xFE76, [":nxFATHAkkd<mid;DAMMAkkd<mid;KASRAkkd<mid;SHADDAkkd<mid;SUKUNkkd<mid;bppkkd<lsaMADDAi",
    "kkd?iked>ppikkd?iked<qjappikkd?iked<lsappkckkd?kcked<lpappikkd?iked?ikrd?imid<lskkd=ked<BEHkk",
    "d=ked=krd=mid<TEH MARBUTAkkd>ked=kkd=ked=krd=mid<THEHkkd=ked=krd=mid<mnkkd=ked=krd=mid<mekkd=",
    "ked=krd=mid<okkkd=ked=krd=mid<DALkkd=ked<THALkkd=ked<REHkkd=ked<ZAINkkd=ked<sgkkd=ked=krd=mid",
    "<uakkd=ked=krd=mid<SADkkd=ked=krd=mid<DADkkd=ked=krd=mid<TAHkkd=ked=krd=mid<ZAHkkd=ked=krd=mi",
    "d<AINkkd=ked=krd=mid<uukkd=ked=krd=mid<FEHkkd=ked=krd=mid<QAFkkd=ked=krd=mid<KAFkkd=ked=krd=m",
    "id<LAMkkd=ked=krd=mid<kxkkd=ked=krd=mid<qhkkd=ked=krd=mid<HEHkkd=ked=krd=mid<qjkkd=ked<lsnjkk",
    "d>ked<lpkkd=ked=krd=mid;qnLAMalsaMADDAikkd?aMADDAiked?appikkd?appiked?appkckkd?appkcked?kkd?k",
    "ed"]),
  (0xFEFF, [":mkWIDTH NO-BREAKtm"]),
  (0xFF01, [":FULLWIDTHskkg;rqkg;npf;DOLLARf;PERCENTf;yt;yi;kapt;jpt;pg;kvf;nv;HYPHEN-MINUS;ovnd;s",
    "x;lumk<kd<kb<ki<km<kq<kz<le<la<li;rb;xp;nzf;qrf;obf;rwkg;COMMERCIAL AT;ogebA>B>C>D>E>F>G>H>I>",
    "J>K>L>M>N>O>P>Q>R>S>T>U>V>W>X>Y>Z;kalllj;tfsx;jlllj;msqf;mcmw;niqf;ogcbA>B>C>D>E>F>G>H>I>J>K>",
    "L>M>N>O>P>Q>R>S>T>U>V>W>X>Y>Z;kasilj;kwmw;jsilj;ly;kaklpt;jklpt:HALFWIDTHvjovnd;karclj;jrclj;",
    "vjnv;wjkskh<bWO=cA>I>U>E>O>YA>YU>YO>TU;zuPROLONGEDvakg;wjbA=I=U=E=O=KA=KI=KU=KE=KO=SA=SI=SU=S",
    "E=SO=TA=TI=TU=TE=TO=NA=NI=NU=NE=NO=HA=HI=HU=HE=HO=MA=MI=MU=ME=MO=YA=YU=YO=RA=RI=RU=RE=RO=WA=N",
    "<VOICEDvakg<SEMI-VOICEDvakg;ukFILLER<bKIYEOK=SSANGKIYEOK=KIYEOK-SIOS=NIEUN=NIEUN-CIEUC=NIEUN-",
    "HIEUH=TIKEUT=SSANGTIKEUT=RIEUL=RIEUL-KIYEOK=RIEUL-MIEUM=RIEUL-PIEUP=RIEUL-SIOS=RIEUL-THIEUTH=",
    "RIEUL-PHIEUPH=RIEUL-HIEUH=MIEUM=PIEUP=SSANGPIEUP=PIEUP-SIOS=SIOS=SSANGSIOS=IEUNG=CIEUC=SSANGC",
    "IEUC=CHIEUCH=KHIEUKH=THIEUTH=PHIEUPH=HIEUH"]),
  (0xFFC2, [":HALFWIDTHukbA=AE=YA=YAE=EO=E"]),
  (0xFFCA, [":HALFWIDTHukbYEO=YE=O=WA=WAE=OE"]),
  (0xFFD2, [":HALFWIDTHukbYO=U=WEO=WE=WI=YU"]),
  (0xFFDA, [":HALFWIDTHukbEU=YI=I"]),
  (0xFFE0, [":FULLWIDTH CENTf;POUNDf;oaf;no;BROKENlb;YENf;WONf"]),
  (0xFFE8, [":HALFWIDTH FORMSlwkw;lch;mfh;kth;lzh;kjll;klln"]),
  (0xFFF9, [":INTERLINEAR ANNOTATION ANCHOR<rg<TERMINATOR:OBJECT REPLACEMENTve:REPLACEMENTve"])
]

end MetesBounds.Text.CharName
