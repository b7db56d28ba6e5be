import MetesBounds.Text.CharName.Block

/-!
# `Text/CharName/Symbol` — the names of shorthand, music, mathematics and further scripts
-/

set_option autoImplicit false

namespace MetesBounds.Text.CharName

/-- Names of shorthand, music, mathematics and further scripts. -/
def symbols : List Block := [
  (0x1B000, [":wjbtuE:HIRAGANAbtuYE:HENTAIGANAbA-1@@<A-WO<I-1@@@<U-1@@@@<E-2@@@@<O-1@@<KA-1@@@@@@@",
    "@@@<KA-KE<KI-1@@@@@@@<KU-1@@@@@@<KE-1@@@@@<KO-1@@<KO-KI<SA-1@@@@@@@<SI-1@@@@@<SU-1@@@@@@@<SE-",
    "1@@@@<SO-1@@@@@@<TA-1@@@<TI-1@@@@@@<TU-1@@@<TU-TO<TE-1@@@@@@@@<TO-1@@@@@<TO-RA<NA-1@@@@@@@@<N",
    "I-1@@@@@@<NI-TE<NU-1@@<NE-1@@@@@<NE-KO<NO-1@@@@<HA-1@@@@@@@@@@<HI-1@@@@@@<HU-1@@<HE-1@@@@@@<H",
    "O-1@@@@@@@<MA-1@@@@@@<MI-1@@@@@@<MU-1@@@<ME-1@<ME-MA<MO-1@@@@@<YA-1@@@@<YA-YO<YU-1@@@<YO-1@@@",
    "@@<RA-1@@@<RI-1@@@@@@<RU-1@@@@@<RE-1@@@<RO-1@@@@@<WA-1@@@@<WI-1@@@@<WE-1@@@<WO-1@@@@@@<N-MU-M",
    "O-1@:HIRAGANAbtuWU:wjbtuYI=YE=WU"]),
  (0x1B150, [":HIRAGANAbcWI=WE=WO"]),
  (0x1B164, [":wjbcWI=WE=WO=N"]),
  (0x1BC00, [":DUPLOYANbH<X<P<T<F<K<L<B<D<V<G<R<P N<D S<F N<K M<R S<TH<SLOAN DH<DH<KK<SLOAN J<HL<L",
    "H<RH<M<N<J<S<M N<N M<J M<S J<Makh<Nakh<Jakh>lmtygi<Sakh?kc<M S<N S<J S<S S<M N S<N M S<J M S<",
    "S J S<J Sakh=N>S<S T>R=P>R<T S=R S<W<WH<W R<S N=M<K R S<G R S<S K>R<A<SLOAN OW<OA<O<AOU<I<E<I",
    "E<ouI<UI<EE<SLOAN EH<ROMANIAN I<SLOAN EE<moI<YE<U<EU<XW<U N<moU<ROMANIAN U<UH<SLOAN U<OOH<OW<",
    "OU<WA<WO<WI<WEI<WOW<NASAL U=O=I=A<PERNIN AN=AM<SLOAN EN=AN=ON<ofM"]),
  (0x1BC70, [":DUPLOYAN AFFIXkalvSECANT<MIDlvSECANT<jlvSECANT<mckwSECANT<MIDkwSECANT<mvkwSECANT<AT",
    "TACHED SECANT=zvSECANT=TANGENT=on=Ekn=Ikn=TANGENTkn"]),
  (0x1BC80, [":DUPLOYAN AFFIXmvmg=TIGHTmg=ni=moni=kh=ln=mw=WAVE=kw"]),
  (0x1BC90, [":DUPLOYAN AFFIXmcmg=TIGHTmg=ni=moni=kh=ln=mw=WAVE=kw=h"]),
  (0x1BC9C, [":DUPLOYANfOaph;THICKbSELECTOR;kfkg;pqCHINOOKovnd:SHORTHAND FORMATbOVERLAP<CONTINUING",
    " OVERLAP<ldSTEP<UP STEP"]),
  (0x1CF00, [":ZNAMENNYpjkgGORAZDO NIZKO SxkONka=NIZKO SxkONka=TSATA ONka=GORAZDO NIZKO ONka=NIZKO",
    " ONka=SREDNE ONka=MALOxoONka=xoONka=VYSOKO ONka=MALOxoS KHOKHLOM ONka=xoS KHOKHLOM ONka=VYSOK",
    "O S KHOKHLOM ONka=GORAZDO NIZKO SxkONj=NIZKO SxkONj=TSATA ONj=GORAZDO NIZKO ONj=NIZKO ONj=SRE",
    "DNE ONj=MALOxoONj=xoONj=VYSOKO ONj=MALOxoS KHOKHLOM ONj=xoS KHOKHLOM ONj=VYSOKO S KHOKHLOM ON",
    "j=TSATA Sxk=MALOxoSxk=STRANNO MALOxo=xoSxk>STRANNO=VYSOKO Sxk=MALOxoSTRANNO=GORAZDO VYSOKO=ZE",
    "LO=ON=RAVNO=TIKHAYA=BORZAYA=UDARKA=PODVERTKA=LOMKA=KUPNAYA=KACHKA=ZEVOK=SKOBA=RAZSEKA=KRYZH O",
    "Nka"]),
  (0x1CF30, [":ZNAMENNYpjTONAL RANGEkgMRACHNO?SVETLO?TRESVETLO<kgZADERZHKA=DEMESTVENNY ZADERZHKA=O",
    "TSECHKA=PODCHASHIE>akwko=CHASHKA>POLNAYA=OBLACHKO=SOROCHYA NOZHKA=TOCHKA=DVOETOCHIE<ATTACHING",
    "kwOMET<kgCURVED OMET=KRYZH<lxTONAL RANGEyz;PRIZNAKreLEVEL-2@=DIRECTION FLIP=KRYZH=ROG"]),
  (0x1CF50, [":ZNAMENNY NEUME KRYUK=TIKHY<PARAKLIT<DVA V CHELNU<KLYUCH<ZANOZHEK<STOPITSA=S OCHKOM<",
    "PEREVODKA=zw<STOPITSAaSOROCHYA NOZHKA<CHELYUSTKA<PALKA<zh<GOLUBCHIK BORZY=TIKHY=MRACHNY=SVETL",
    "Y=TRESVETLY<VRAKHIYA PROSTAYA=MRACHNAYA=SVETLAYA=TRESVETLAYA=zkPROSTAYA>MRACHNAYA>SVETLAYA>TR",
    "ESVETLAYA<kfzh<myCHELYUSTKA<DERBITSA<KHAMILO<CHASHKA<PODCHASHIE<SKAMEYTSA MRACHNAYA=SVETLAYA=",
    "TRESVETLAYA=TIKHAYA<DEMESTVENNY KLYUCH<SKAMEYTSAzkSVETLAYA=KLYUCHENEPOSTOYANNAYA=zkTIKHAYA=DV",
    "OECHELNAYA PROSTAYA>SVETLAYA>zw>zk<SLOZHITIE=S ZAPYATOY=ZAKRYTOE=Sxk<KRYZH<ROG<FITA<KOBYLA<ZM",
    "EYTSA<STATYA=S ZAPYATOY>xk>ZAPYATOY Ixk>xkI ZAPYATOY=ZAKRYTAYA>S ZAPYATOY=S ROGOM>DVUMYA ZAPY",
    "ATYMI>ZAPYATOY I PODCHASHIEM<POLKULIZMY<STATYAzw<STRELA PROSTAYA=MRACHNOTIKHAYA=KRYZHEVAYA=PO",
    "LUPOVODNAYA=POVODNAYA=zw=KLYUCHEPOVODNAYA=KLYUCHENEPOSTOYANNAYA=TIKHAYA PUTNAYA=DVOECHELNAYA=",
    "DVOECHELNOKRYZHEVAYA=DVOECHELNOPOVODNAYA=DVOECHELNAYAzk=DVOECHELNOPOVODNAYAzk=GROMNAYAanczh=G",
    "ROMOPOVODNAYAanczh=GROMNAYA=GROMOPOVODNAYA>akfzh=GROMOKRYZHEVAYA>POVODNAYA<MECHIK=POVODNY=KLY",
    "UCHEVOY=KLYUCHEPOVODNY=KLYUCHENEPOSTOYANNY<STRELA TRYASOGLASNAYA=TRYASOPOVODNAYA=TRYASOSTRELN",
    "AYA<OSOKA=SVETLAYA=TRESVETLAYA=KRYUKOVAYA SVETLAYA=zkSVETLAYA>zw<STRELA KRYUKOVAYA>POVODNAYA>",
    "GROMNAYAanczh>GROMOPOVODNAYAanczh>GROMNAYA>GROMOPOVODNAYA?akfzh>GROMOKRYZHEVAYA?POVODNAYA>TRY",
    "ASKA<KUFISMA<OBLAKO<DUDA<NEMKA<PAUK"]),
  (0x1D000, [":BYZANTINEwkkpmx=DASEIA=pe=OXEIA EKFONITIKON>DIPLI=VAREIA EKFONITIKON>DIPLI=KATHISTI",
    "=SYRMATIKI=PARAKLITIKI=YPOKRISIS>DIPLI=KREMASTI=APESO EKFONITIKON=EXO EKFONITIKON=TELEIA=KENT",
    "IMATA=APOSTROFOS>DIPLI=SYNEVMA=THITA=OLIGONtv=GORGONtv=PSILON=CHAMILON=VATHY=ISONtv=KENTIMAtv",
    "=KENTIMATAtv=SAXIMATA=PARICHON=STAVROS APODEXIA=OXEIAItv=VAREIAItv=APODERMAtv=APOTHEMA=KLASMA",
    "=REVMA=PIASMAtv=TINAGMA=ANATRICHISMA=SEISMA=SYNAGMAtv>META STAVROU=OYRANISMAtv=THEMA=LEMOI=DY",
    "O=TRIA=TESSERA=KRATIMATA=APESO EXO NEO=FTHORAtv=IMIFTHORA=TROMIKONtv=KATAVA TROMIKON=PELASTON",
    "=PSIFISTON=KONTEVMA=CHOREVMAtv=RAPISMA=PARAKALESMAtv=PARAKLITIKItv=ICHADIN=NANA=PETASMA=KONTE",
    "VMA ALLO=TROMIKON ALLO=STRAGGISMATA=GRONTHISMATA=ISON NEO=OLIGON NEO=OXEIA NEO=PETASTI=KOUFIS",
    "MA=PETASTOKOUFISMA=KRATIMOKOUFISMA=PELASTON NEO=KENTIMATA NEO ANO=KENTIMA NEO ANO=YPSILI=APOS",
    "TROFOS NEO=APOSTROFOI SYNDESMOS NEO=YPORROI=KRATIMOYPORROON=ELAFRON=CHAMILI=MIKRON ISON=VAREI",
    "A NEO=PIASMA NEO=PSIFISTON NEO=OMALON=ANTIKENOMA=LYGISMA=PARAKLITIKI NEO=PARAKALESMA NEO=ETER",
    "ON PARAKALESMA=KYLISMA=ANTIKENOKYLISMA=TROMIKON NEO=EKSTREPTON=SYNAGMA NEO=SYRMA=CHOREVMA NEO",
    "=EPEGERMA=SEISMA NEO=XIRON KLASMA=TROMIKOPSIFISTON=PSIFISTOLYGISMA=TROMIKOLYGISMA=TROMIKOPARA",
    "KALESMA=PSIFISTOPARAKALESMA=TROMIKOSYNAGMA=PSIFISTOSYNAGMA=GORGOSYNTHETON=ARGOSYNTHETON=ETERO",
    "N ARGOSYNTHETON=OYRANISMA NEO=THEMATISMOS ESO>EXO=THEMA APLOUN=THES KAI APOTHES=KATAVASMA=END",
    "OFONON=YFEN KATO>ANO=STAVROS=KLASMA ANO=DIPLItv=KRATIMAtv>ALLO>NEO=APODERMA NEO=APLI=DIPLI=TR",
    "IPLI=TETRAPLI=KORONIS=LEIMMA ENOS CHRONOU>DYO CHRONON>TRION CHRONON>TESSARON CHRONON>IMISEOS ",
    "CHRONOU=GORGON NEO ANO>PARESTIGMENON ARISTERA?DEXIA=DIGORGON>PARESTIGMENON ARISTERA KATO?ARIS",
    "TERA ANO?DEXIA=TRIGORGON=ARGON=IMIDIARGON=DIARGON=AGOGI POLI ARGI>ARGOTERI>ARGI>METRIA>MESI>G",
    "ORGI>GORGOTERI>POLI GORGI=MARTYRIA PROTOS ICHOS>ALLI PROTOS ICHOS>DEYTEROS ICHOS>ALLI DEYTERO",
    "S ICHOS>TRITOS ICHOS>TRIFONIAS>TETARTOS ICHOS?LEGETOS ICHOS>LEGETOS ICHOS>PLAGIOS ICHOS=ISAKI",
    "A TELOUS ICHIMATOS=APOSTROFOI TELOUS ICHIMATOS=FANEROSIS TETRAFONIAS>MONOFONIAS>DIFONIAS=MART",
    "YRIA VARYS ICHOS>PROTOVARYS ICHOS>PLAGIOS TETARTOS ICHOS=GORTHMIKON N APLOUN?DIPLOUN=ENARXIS ",
    "KAI FTHORA VOU=IMIFONON=IMIFTHORON=FTHORAtvDEYTEROU ICHOU>DIATONIKI PA?NANA>NAOS ICHOS>DIATON",
    "IKI DI>SKLIRON DIATONON DI>DIATONIKI KE?ZO?NI KATO?NI ANO>MALAKON CHROMA DIFONIAS?CHROMA MONO",
    "FONIAS=FHTORA SKLIRON CHROMA VASIS=FTHORA SKLIRON CHROMA SYNAFI>NENANO=CHROA ZYGOS>KLITON>SPA",
    "THI=FTHORA I YFESIS TETARTIMORION>ENARMONIOS ANTIFONIA=YFESIS TRITIMORION=DIESIS TRITIMORION>",
    "TETARTIMORION>APLI DYO DODEKATA>MONOGRAMMOS TESSERA DODEKATA>DIGRAMMOS EX DODEKATA>TRIGRAMMOS",
    " OKTO DODEKATA=YFESIS APLI DYO DODEKATA>MONOGRAMMOS TESSERA DODEKATA>DIGRAMMOS EX DODEKATA>TR",
    "IGRAMMOS OKTO DODEKATA=GENIKI DIESIS>YFESIS=DIASTOLI APLI MIKRI?MEGALI>DIPLI>THESEOS=SIMANSIS",
    " THESEOS?DISIMOU?TRISIMOU?TETRASIMOU>ARSEOS?DISIMOU?TRISIMOU?TETRASIMOU=DIGRAMMA GG=DIFTOGGOS",
    " OU=STIGMA=ARKTIKO PA>VOU>GA>DI>KE>ZO>NI=KENTIMATA NEO MESO=KENTIMA NEO MESO=KENTIMATA NEO KA",
    "TO=KENTIMA NEO KATO=KLASMA KATO=GORGON NEO KATO"]),
  (0x1D100, [":wkkpncBARLINE<kfBARLINE<keBARLINE<tfkeBARLINE<wtBARLINE<ouBARLINE<kaREPEATf<jREPEAT",
    "f<REPEATlm<DAL SEGNO<DA CAPO<SEGNO<CODA<REPEATED FIGURE-1@@<FERMATA=kc<BREATHkg<CAESURA<BRACE",
    "<lj<ONE-LINE STAFF<TWO-LINE STAFF<THREE-LINE STAFF<FOUR-LINE STAFF<FIVE-LINE STAFF<SIX-LINE S",
    "TAFF<SIX-STRING FRETBOARD<FOUR-STRING FRETBOARD<G CLEF>OTTAVA ALTA?BASSA<C CLEF<F CLEF>OTTAVA",
    " ALTA?BASSA<DRUM CLEF-1@"]),
  (0x1D129, [":wkkpwxMEASURE REST<kfSHARP=FLAT<FLAT UP=ld<NATURAL UP=ld<SHARP UP=ld<qymuSHARP>FLAT",
    "<COMMON TIME<CUT TIME<OTTAVA ALTA=BASSA<QUINDICESIMA ALTA=BASSA<MULTI REST<WHOLE REST<lfREST<",
    "qyREST<sfREST<SIXTEENTH REST<THIRTY-SECOND REST<SIXTY-FOURTH REST<kdlgTWENTY-EIGHTH REST<Xxn<",
    "kvxn<lnXxn<llxnkl>kj<mbxnUPkl?kj>kakl?kj>jkl?kj>ldkl?kj>UPjkl?jkj<slxnkl>kj<TRIANGLE-ROUNDxnl",
    "dkl?kj<ptxn<VOIDxn<xnkj<NULLxn<CLUSTERxnkl>kj<oh<WHOLE NOTE<lfNOTE<qyNOTE<sfNOTE<SIXTEENTH NO",
    "TE<THIRTY-SECOND NOTE<SIXTY-FOURTH NOTE<kdlgTWENTY-EIGHTH NOTE<pjSTEM=SPRECHGESANG STEM=TREMO",
    "LO-1@@<FINGERED TREMOLO-1@@<pjAUGMENTATIONkh=FLAG-1@@@@<BEGIN BEAM<END BEAM<BEGIN TIE<END TIE",
    "<BEGIN SLUR<END SLUR<BEGIN PHRASE<END PHRASE<pjqf=STACCATO=TENUTO=STACCATISSIMO=MARCATO=MARCA",
    "TO-STACCATO=ACCENT-STACCATO=LOURE<ARPEGGIATO UP=ld<pjDOIT=RIP=FLIP=SMEAR=BEND=kfTONGUE=pfTONG",
    "UE<RINFORZANDO<SUBITO<Z<PIANO<MEZZO<FORTE<CRESCENDO<DECRESCENDO<GRACE NOTEvp>NOvp<TR<TURN<nmT",
    "URN<TURNvp=UP<otSTROKE-1@@@@@@@@@@<HAUPTSTIMME<NEBENSTIMME<END OF STIMME<DEGREEvp<pjldBOW=UP ",
    "BOW=HARMONIC=SNAP PIZZICATO<PEDALkg=UPkg<lfPEDALkg<GLISSANDO UP=ld<aFINGERNAILS<DAMP=ALL<MAXI",
    "MA<LONGA<BREVIS<SEMIBREVISkl=kj<MINIMA=kj<SEMIMINIMAkl=kj<FUSAkl=kj<LONGA PERFECTA REST=IMPER",
    "FECTA REST<BREVIS REST<SEMIBREVIS REST<MINIMA REST<SEMIMINIMA REST<TEMPUS PERFECTUM CUM PROLA",
    "TIONE PERFECTA?PROLATIONE IMPERFECTA?PROLATIONE PERFECTA DIMINUTION-1=IMPERFECTUM CUM PROLATI",
    "ONE PERFECTA?PROLATIONE IMPERFECTA?PROLATIONE IMPERFECTA DIMINUTION-1@@<CROIX<GREGORIAN C CLE",
    "F=F CLEF<llB<VIRGA<PODATUS<CLIVIS<SCANDICUS<CLIMACUS<TORCULUS<PORRECTUS=FLEXUS<SCANDICUS FLEX",
    "US<TORCULUS RESUPINUS<PES SUBPUNCTIS<KIEVAN C CLEF=END OF PIECE=keNOTE=RECITATIVEkg=WHOLE NOT",
    "E=lfNOTE=qyNOTE STEMld?STEM UP=sfNOTE STEMld?STEM UP=FLATf<SORI<KORON"]),
  (0x1D200, [":plVOCAL NOTATION SYMBOL-1@@@@@@@@@@@@@@@@@@@@@@@=SYMBOL-50@@@@;INSTRUMENTAL NOTATIO",
    "N SYMBOL-1@=SYMBOL-4@=SYMBOL-7@=SYMBOL-11@@@=SYMBOL-17@@=SYMBOL-23@@@@=SYMBOL-29@=SYMBOL-32=S",
    "YMBOL-36@@@@=SYMBOL-42@=SYMBOL-45=SYMBOL-47@@@@@@@:pjplwkTRISEME=TETRASEME=PENTASEME:plwkLEIM",
    "MA"]),
  (0x1D2E0, [":MAYAN NUMERALmk<kd<kb<ki<km<kq<kz<le<la<li<mr<ELEVEN<wo<THIRTEEN<FOURTEEN<xu<SIXTEE",
    "N<zd<ym<NINETEEN"]),
  (0x1D300, [":MONOGRAMqgEARTH:DIGRAMqgHEAVENLY EARTH<HUMAN EARTH<EARTHLY HEAVEN=HUMAN<EARTH:TETRA",
    "GRAMqgns<ovln<MIRED<BARRIER<KEEPINGc<CONTRARIETY<ASCENT<OPPOSITION<BRANCHING OUT<DEFECTIVENES",
    "S OR DISTORTION<DIVERGENCE<YOUTHFULNESS<INCREASE<PENETRATION<REACH<CONTACT<HOLDING BACK<WAITI",
    "NG<FOLLOWING<ADVANCE<RELEASE<RESISTANCE<EASE<JOY<CONTENTION<ENDEAVOUR<DUTIES<CHANGE<DECISIVEN",
    "ESS<roRESOLUTION<PACKING<LEGION<CLOSENESS<KINSHIP<GATHERING<STRENGTH<PURITY<FULLNESS<RESIDENC",
    "E<LAW OR MODEL<RESPONSE<GOING TO MEET<ENCOUNTERS<STOVE<GREATNESS<ENLARGEMENT<PATTERN<RITUAL<F",
    "LIGHT<VASTNESS OR WASTING<CONSTANCY<MEASURE<ETERNITY<UNITY<DIMINISHMENT<qqtr<GUARDEDNESS<GATH",
    "ERING IN<MASSING<ACCUMULATION<EMBELLISHMENT<DOUBT<WATCH<SINKING<INNER<DEPARTURE<DARKENING<DIM",
    "MING<EXHAUSTION<SEVERANCE<STOPPAGE<HARDNESS<COMPLETION<CLOSURE<FAILURE<AGGRAVATION<COMPLIANCE",
    "<ON THE VERGE<DIFFICULTIES<LABOURING<FOSTERING"]),
  (0x1D360, [":COUNTING ROD UNITlukd>kb>ki>km>kq>kz>le>la>li<TENSlukd>kb>ki>km>kq>kz>le>la>li:vjTA",
    "LLYkgkd=kb=ki=km=kq:TALLYkgkd<kq"]),
  (0x1D400, [":ocroeA=B=C=D=E=F=G=H=I=J=K=L=M=N=O=P=Q=R=S=T=U=V=W=X=Y=Z<cA=B=C=D=E=F=G=H=I=J=K=L=M",
    "=N=O=P=Q=R=S=T=U=V=W=X=Y=Z;wueA=B=C=D=E=F=G=H=I=J=K=L=M=N=O=P=Q=R=S=T=U=V=W=X=Y=Z<cA=B=C=D=E=",
    "F=G"]),
  (0x1D456, [":ocwucI=J=K=L=M=N=O=P=Q=R=S=T=U=V=W=X=Y=Z;rowueA>B>C>D>E>F>G>H>I>J>K>L>M>N>O>P>Q>R>S",
    ">T>U>V>W>X>Y>Z=cA>B>C>D>E>F>G>H>I>J>K>L>M>N>O>P>Q>R>S>T>U>V>W>X>Y>Z;rfeA"]),
  (0x1D49E, [":ocrfeC=D"]),
  (0x1D4A2, [":ocrfeG"]),
  (0x1D4A5, [":ocrfeJ=K"]),
  (0x1D4A9, [":ocrfeN=O=P=Q"]),
  (0x1D4AE, [":ocrfeS=T=U=V=W=X=Y=Z<cA=B=C=D"]),
  (0x1D4BB, [":ocrfcF"]),
  (0x1D4BD, [":ocrfcH=I=J=K=L=M=N"]),
  (0x1D4C5, [":ocrfcP=Q=R=S=T=U=V=W=X=Y=Z;rorfeA>B>C>D>E>F>G>H>I>J>K>L>M>N>O>P>Q>R>S>T>U>V>W>X>Y>Z",
    "=cA>B>C>D>E>F>G>H>I>J>K>L>M>N>O>P>Q>R>S>T>U>V>W>X>Y>Z;FRAKTUReA=B"]),
  (0x1D507, [":ocFRAKTUReD=E=F=G"]),
  (0x1D50D, [":ocFRAKTUReJ=K=L=M=N=O=P=Q"]),
  (0x1D516, [":ocFRAKTUReS=T=U=V=W=X=Y"]),
  (0x1D51E, [":ocFRAKTURcA=B=C=D=E=F=G=H=I=J=K=L=M=N=O=P=Q=R=S=T=U=V=W=X=Y=Z;ugeA=B"]),
  (0x1D53B, [":ocugeD=E=F=G"]),
  (0x1D540, [":ocugeI=J=K=L=M"]),
  (0x1D546, [":ocugeO"]),
  (0x1D54A, [":ocugeS=T=U=V=W=X=Y"]),
  (0x1D552, [":ocugcA=B=C=D=E=F=G=H=I=J=K=L=M=N=O=P=Q=R=S=T=U=V=W=X=Y=Z;roFRAKTUReA>B>C>D>E>F>G>H>",
    "I>J>K>L>M>N>O>P>Q>R>S>T>U>V>W>X>Y>Z=cA>B>C>D>E>F>G>H>I>J>K>L>M>N>O>P>Q>R>S>T>U>V>W>X>Y>Z;tgeA",
    "=B=C=D=E=F=G=H=I=J=K=L=M=N=O=P=Q=R=S=T=U=V=W=X=Y=Z<cA=B=C=D=E=F=G=H=I=J=K=L=M=N=O=P=Q=R=S=T=U",
    "=V=W=X=Y=Z<roeA>B>C>D>E>F>G>H>I>J>K>L>M>N>O>P>Q>R>S>T>U>V>W>X>Y>Z=cA>B>C>D>E>F>G>H>I>J>K>L>M>",
    "N>O>P>Q>R>S>T>U>V>W>X>Y>Z<wueA>B>C>D>E>F>G>H>I>J>K>L>M>N>O>P>Q>R>S>T>U>V>W>X>Y>Z=cA>B>C>D>E>F",
    ">G>H>I>J>K>L>M>N>O>P>Q>R>S>T>U>V>W>X>Y>Z<rowueA?B?C?D?E?F?G?H?I?J?K?L?M?N?O?P?Q?R?S?T?U?V?W?X",
    "?Y?Z>cA?B?C?D?E?F?G?H?I?J?K?L?M?N?O?P?Q?R?S?T?U?V?W?X?Y?Z;MONOSPACEeA=B=C=D=E=F=G=H=I=J=K=L=M",
    "=N=O=P=Q=R=S=T=U=V=W=X=Y=Z<cA=B=C=D=E=F=G=H=I=J=K=L=M=N=O=P=Q=R=S=T=U=V=W=X=Y=Z;wucvgI>J"]),
  (0x1D6A8, [":ocroeqt=BETA=ti=ts=sj=ZETA=ETA=sq=rd=um=LAMDA=MU=NU=XI=uo=PI=RHO=sqkp=sn=TAU=rm=PHI",
    "=CHI=PSI=qi<NABLA<cqt=BETA=ti=ts=sj=ZETA=ETA=sq=rd=um=LAMDA=MU=NU=XI=uo=PI=RHO=kesn=sn=TAU=rm",
    "=PHI=CHI=PSI=qi<PARTIALzn<sjkp<sqkp<umkp<PHIkp<RHOkp<PIkp;wueqt=BETA=ti=ts=sj=ZETA=ETA=sq=rd=",
    "um=LAMDA=MU=NU=XI=uo=PI=RHO=sqkp=sn=TAU=rm=PHI=CHI=PSI=qi<NABLA<cqt=BETA=ti=ts=sj=ZETA=ETA=sq",
    "=rd=um=LAMDA=MU=NU=XI=uo=PI=RHO=kesn=sn=TAU=rm=PHI=CHI=PSI=qi<PARTIALzn<sjkp<sqkp<umkp<PHIkp<",
    "RHOkp<PIkp;rowueqt>BETA>ti>ts>sj>ZETA>ETA>sq>rd>um>LAMDA>MU>NU>XI>uo>PI>RHO>sqkp>sn>TAU>rm>PH",
    "I>CHI>PSI>qi=NABLA=cqt>BETA>ti>ts>sj>ZETA>ETA>sq>rd>um>LAMDA>MU>NU>XI>uo>PI>RHO>kesn>sn>TAU>r",
    "m>PHI>CHI>PSI>qi=PARTIALzn=sjkp=sqkp=umkp=PHIkp=RHOkp=PIkp;tgroeqt>BETA>ti>ts>sj>ZETA>ETA>sq>",
    "rd>um>LAMDA>MU>NU>XI>uo>PI>RHO>sqkp>sn>TAU>rm>PHI>CHI>PSI>qi=NABLA=cqt>BETA>ti>ts>sj>ZETA>ETA",
    ">sq>rd>um>LAMDA>MU>NU>XI>uo>PI>RHO>kesn>sn>TAU>rm>PHI>CHI>PSI>qi=PARTIALzn=sjkp=sqkp=umkp=PHI",
    "kp=RHOkp=PIkp=wueqt?BETA?ti?ts?sj?ZETA?ETA?sq?rd?um?LAMDA?MU?NU?XI?uo?PI?RHO?sqkp?sn?TAU?rm?P",
    "HI?CHI?PSI?qi>NABLA>cqt?BETA?ti?ts?sj?ZETA?ETA?sq?rd?um?LAMDA?MU?NU?XI?uo?PI?RHO?kesn?sn?TAU?",
    "rm?PHI?CHI?PSI?qi>PARTIALzn>sjkp>sqkp>umkp>PHIkp>RHOkp>PIkp;roeDIGAMMA<cDIGAMMA"]),
  (0x1D7CE, [":ocrolumk=kd=kb=ki=km=kq=kz=le=la=li;uglumk=kd=kb=ki=km=kq=kz=le=la=li;tglumk=kd=kb=",
    "ki=km=kq=kz=le=la=li<rolumk>kd>kb>ki>km>kq>kz>le>la>li;MONOSPACElumk=kd=kb=ki=km=kq=kz=le=la=",
    "li:SIGNWRITINGsalr;uvlr;HAND-CUPlr;HAND-OVALlr;ujlr;xjlr;salrrn;uvlrrn;samlUNDERlrrn<lrsmKNUC",
    "KLE=CUPPED=tx>mc;uvlrHINGE;salrks;uvlrks;salrksrn>smKNUCKLES>tx=UPkstx=txksUP=kstq?lrrn?ksrn?",
    "CUPPED?tx>ws;uvlrksws;saksrnlolr<lrrnloks=ksml;uvlrksml;salrkssymlrn>rnmlsy>mlrn>txxemlrx=UPk",
    "stxmlrx?txmltq=txksUPmlrx=ksUPxemlui>mlCUPPED?oo?HOOKED?tx<mlutlrkssy<lrkstqmlrx?mlrxtq?mlrxr",
    "n<ksmlHOOKEDlrUP<lrmlHOOKEDksUP=kstqtxmlrx>wsmlrx>tqmlui?CUPPEDmlui<ksmlCUPPEDlrUP<lrmlCUPPED",
    "ksUP<ksmloolrUP?lrtx<lrmlANGLED OUTksUP?INksUP>ooksUP=ksmltqtx?ANGLED OUT?ANGLED<ksmlANGLED O",
    "UTlrUP?OUTlrws?lrUP<lrmlHOOKEDkstx;HAND-FLATkmst>rn>tx>tq?SPLIT;HAND-CLAWkmsttq;sakmsttqrn;uj",
    "kmsttq;HAND-FLATkqstxe<HEELkqstxe<kqstxekmrn<HEELkqstxekmrn<kqstxern<HEELkqstxern<kqstxemlui;",
    "HAND-CUPkqstxe?mp;ujkqstxemp;HAND-OVALkqstxe;HAND-FLATkqstxetx?txmlrx?txNOml<<utPALM FACINGS<",
    "HEEL<mlrx<HEELmlrx<mlrn=ui<SPLITlrmlrx=ns>mlrx?rxrn=ol;HAND-CLAW<mlrx<NOml<mlui;HAND-HOOK CUR",
    "LICUE<;HAND-CUPmp<<mpmlrx<mlrx<mpNOml<NOml<mpmlui<mlui;HAND-CURLICUEmp<;uv;HAND-OVAL<mlrx<NOm",
    "l<mlui;ujmp=mlui<<c<mpmlrx<mlrx<mpNOml<NOml<mlrxTOUCHINGlr=utksma;xj;salrksma;uvlrksma;ujlrks",
    "ma;xjlrksma;ujol;salrksmarn?tq;ujlrksmatq;saolld>RIPPLEsy?CURVED>OTHERSoo=UP<mlUNDERolUP;uvol",
    "UP;HAND-OVALolUP;xjolUP;saolsmKNUCKLE=rn=TOUCHESml=ml;ujolml;saollrml;ujollrml;xjollrmllrmlOU",
    "T?lrml;saollr;uvollr;ujollr;xjollr;salrksol;uvlrksol;ujlrksol<ma;xjlrksol;salrksphol;uvlrksph",
    "ol;samald;ujmaldlrmlknks;xjmaldksmllrph;samaUP=smKNUCKLE=ol;uvmaol;HAND-OVALmaol;xjmaol;samak",
    "s>tq>smKNUCKLES=lr=ml;HAND-HOOKmaml;salrmaol;uvlrmaol;HAND-CURLICUElrmaolON;HAND-HOOKlrmaolOU",
    "T?IN?UNDER;HAND-CUPlrmaol;ujlrmaol;xjlrmaolOUT?;saksld;ujks;saksUP;uvksUP;sakssmKNUCKLE=UPmlr",
    "x;HAND-HOOKksml;saksmlol=ol=maol;uvksmaol;HAND-CURLICUEksmaolON;HAND-CUPksmaol;ujksmaol;xjksm",
    "aolOUT?IN?;uvksmaolrn;HAND-CLAWksmaoltq?tqrx;HAND-HOOKksmaoltqOUT?tqIN?tq;ujlrtx;salrmlrx;ujl",
    "rmlrx;salrmlrxmlpk?mltq?mlrn?lrrn?BOTHrn?lrHINGE>uilrsy?lrrn>kn>CURLICUE>ufmlty;HAND-CLAWlrml",
    "ufmlty;salrmlufmlUNDER>ln;HAND-CUPlrml>mp;ujlrmlmp>nh>>c;xjlrmlOUT>IN>;saml=HEEL=rxpk>tq>rn=u",
    "i=utlrks>ksma>maol=UNDERkbst=lokbst=UNDERkist>kmst=lokmsmKNUCKLES<<HEEL;TOUCHnc<wx<ut;GRASPnc",
    "<wx<ut;STRIKEnc<wx<ut;BRUSHnc<wx<ut;RUBnc<wx<ut;SURFACE SYMBOLS<ut;SQUEEZEnhnc<cnc<nhwx<cwx<S",
    "EQUENTIAL;FLICKnhnc<cnc<nhwx<cwx<SEQUENTIAL;SQUEEZE FLICKud;MOVEMENT-HINGE UPldnh>c=SEQUENTIA",
    "L<ldSEQUENTIAL<UPldudnh?c<rxTOrxSCISSORS;xmFINGER CONTACT;xlFINGER CONTACT;xmncsyc>mh>nh>LARG",
    "EST=WRIST FLEX<kfsy=WRIST FLEX=ud>WRIST FLEX<ph<pfsyMOVEMENT=WRIST FLEX=ud>WRIST FLEX<BENDc=m",
    "h=nh<rcc=mh=nh=ROTATION<CHECKc=mh=nh<BOXc=mh=nh<ZIGZAGc=mh=nh<PEAKSc=mh=nh;TRAVEL-WALLPLANEzz",
    "nc=kf=ud<zync=kf=ud<SHAKING<ARM SPIRALnc>kf>pf;MOVEMENT-DIAGONAL AWAYc=mh=nh=LARGEST<TOWARDSc",
    "=mh=nh=LARGEST<utAWAYc>mh>nh>LARGEST=TOWARDSc>mh>nh>LARGEST;xlncsyc>mh>nh>LARGEST=WRIST FLEX<",
    "kfsy=WRIST FLEX=ud>WRIST FLEX<ph<pfsyMOVEMENT=WRIST FLEX=udMOVEMENT>WRIST FLEX<BEND<rcc=mh=nh",
    "<CHECK<BOXc=mh=nh<ZIGZAGc=mh=nh<PEAKSc=mh=nh;TRAVEL-FLOORPLANEzync=kf=ud<zznc=kf=ud<SHAKING;x",
    "mufqyc>mh>nh>LARGEST=HALF-CIRCLEc>mh>nh>LARGEST=THREE-QUARTERlnc?mh<HUMPc=mh=nh<LOOPc=mh=nh=c",
    "kf<WAVEufkfc?mh?nh>pfc?mh?nh<ufTHENsy<CURVEDphc>mh;zznc<kf<ta;xmSHAKING<ufrlFRONT WALL<HUMPrl",
    "FRONT WALL<LOOPrlFRONT WALL<WAVErlFRONT WALL;zzncrlFRONT WALL<kfrlFRONT WALL<udrlFRONT WALL;x",
    "mufrlCHEST<HUMPrlCHEST<LOOPrlCHEST<WAVErlCHEST;zzncrlCHEST<kfrlCHEST<udrlCHEST;xmWAVEpkPATHc?",
    "mh?nh;xlufrlCEILINGc?nh<HUMPrlCEILINGckf?nhkf?cpf?nhpf<LOOPrlCEILINGcnc?nhnc?ckf?nhkf<WAVErlC",
    "EILINGc?nh;zyncrlCEILING<kfrlCEILING<udrlCEILING;xlufrlFLOORc?nh<HUMPrlFLOORckf?nhkf?pfcpf?pf",
    "nhpf<LOOPrlFLOORcnc?nhnc?ckf?nhkf<WAVErlFLOORc?nh;zyncrlFLOOR<kfrlFLOOR<udrlFLOOR;xlufc=mh=nh",
    "=LARGEST=COMBINED<HUMPc<LOOPc<WAVE SNAKE=c=nh;zync<kf<ud;xlSHAKING PARALLEL;xmARMlncnc>mhnc>c",
    "kf>mhkf;xlARMlnrlWALLcnc?WALLmhnc?WALLnhnc?WALLckf?WALLmhkf?WALLnhkf;xmWRISTlnFRONTnc?kf;xlWR",
    "ISTlnrlWALLnc?WALLkf;xmFINGERwqnc>kf;xlFINGERwqrlWALLnc?WALLkf;DYNAMICnfc=nh<FAST<SLOW<TENSE<",
    "RELAXED<SIMULTANEOUS=ud<EVERY OTHER TIME<GRADUAL;HEAD<RIM<xmsy=TILT<xlsy<xmuf<xluf<MOVEMENTln",
    ";lkDIRECTION POSITION NOSEuiTILTING?UP ORld?UP ORldTILTING;EYEBROWSsyUP=tj=ld;DREAMY EYEBROWS",
    "tjld=ldtj=UPtj=tjUP;FOREHEADtj<CONTACT<WRINKLED;EYESmp<SQUEEZED<qq;EYE BLINKnc=wx;EYESlfmp<WI",
    "DEmp<lfqq<WIDENING MOVEMENT;EYE WINK;EYELASHES UP<ld<FLUTTERING;EYEGAZE-WALLPLANEsy=kf=ud;EYE",
    "GAZE-FLOORPLANEsy=kf=ud;EYEGAZE-WALLPLANE CURVED;EYEGAZE-FLOORPLANE CURVED;EYEGAZE-WALLPLANE ",
    "CIRCLING;CHEEKS PUFFED<tj<SUCKED;TENSE CHEEKSmv=ks=mc;EARS;NOSEtj<CONTACT<WRINKLES<WIGGLES;AI",
    "R BLOWING OUT<SUCKING IN<BLOWcROTATIONS<SUCKcROTATIONS;BREATH INHALE<EXHALE;trqqtj=ui=CONTACT",
    "<SMILE=WRINKLED=mp<FROWN=WRINKLED=mp<mpln=ui=WRINKLED=OVAL>WRINKLED>YAWN=RECTANGLE>WRINKLED>Y",
    "AWN<KISS=ui=WRINKLED<TENSE=ui=SUCKED;LIPS PRESSED TOGETHER;LIPlxlomj<mjlolx;trCORNERS<WRINKLE",
    "Snc=kf;TONGUE STICKING OUT FAR<LICKING LIPS<TIPutLIPS=TOUCHINGtytr<tytrRELAXED<MOVES AGAINST ",
    "CHEEK<nsSTICKING OUT=tytr;TEETH<MOVEMENT<ON TONGUE>MOVEMENT=LIPS>MOVEMENT<BITE LIPS;xmJAW;xlJ",
    "AW;NECK;HAIR;EXCITEMENT;SHOULDER HIP SPINE=POSITIONS;WALLPLANE SHOULDER HIP MOVE;FLOORPLANE S",
    "HOULDER HIP MOVE;SHOULDER TILTINGrjWAIST;TORSO-WALLPLANEsySTRETCH<CURVED BEND;TORSO-FLOORPLAN",
    "E TWISTING;mjBODY TILTINGrjHIP JOINTS;LIMB COMBINATION<LENGTH-1@@@@@@;FINGER;LOCATION-WALLPLA",
    "NEtm;LOCATION-FLOORPLANEtm;LOCATION HEIGHT<WIDTH<DEPTH<HEAD NECK<TORSO<LIMBS DIGITS;nv;ovnd;x",
    "p;rb;pt"]),
  (0x1DA9B, [":SIGNWRITING FILL MODIFIER-2@@@@"]),
  (0x1DAA1, [":SIGNWRITING ROTATION MODIFIER-2@@@@@@@@@@@@@@"]),
  (0x1DF00, [":ogcbFENGryaTRILL=myrfG;bcemqG;cbmyK;bceLaBELT;cbLEZHapukn=mqYaBELT=myENG=mqRamoLEGg",
    "pukn=Takngpukn;bpuCLICKapukn;cbESHakflb?kflbgCURL=mqTaCURL;bnmrzndaCURL<yrCaCURL<cemqK;cbLaFI",
    "SHHOOK=DEZHryarvkn=LaBELTgrvkn=ENGarvkn=mqRarvkn=RaFISHHOOKgrvkn=TESHryarvkn=EZHarvkn=DEZHrya",
    "pukn=Iakogpukn=Oapukn=TESHryapukn=Capukn=SaCURL"]),
  (0x1E000, [":pjGLAGOLITICbAZU=BUKY=VEDE=GLAGOLI=DOBRO=YESTU=ZHIVETE"]),
  (0x1E008, [":pjGLAGOLITICbZEMLJA=IZHE=krIZHE=I=DJERVI=KAKO=LJUDIJE=MYSLITE=NASHI=ONU=POKOJI=RITS",
    "I=SLOVO=TVRIDO=UKU=FRITU=HERU"]),
  (0x1E01B, [":pjGLAGOLITICbSHTA=TSI=CHRIVI=nb=YERU=YERI=YATI"]),
  (0x1E023, [":pjGLAGOLITICbYU=cYUS"]),
  (0x1E026, [":pjGLAGOLITICbYO=IOTATEDcYUS=BIG YUS=IOTATED BIG YUS=FITA"]),
  (0x1E100, [":NYIAKENG PUACHUE HMONGbMA>TSA>NTA>TA>HA>NA>XA>NKA>CA>LA>SA>ZA>NCA>NTSA>KA>DA>nl>NRA",
    ">VA>NTXA>TXA>FA>RA>QA>YA>NQA>PA>XYA>NPA>DLA>NPLA>me>MLA>PLA>GA>RRA>A>AA>I>U>O>OO>E>EE>W"]),
  (0x1E130, [":NYIAKENG PUACHUE HMONG TONE-B=TONE-M=TONE-J=TONE-V=TONE-S=TONE-G=TONE-D=fqgvm?THING",
    "?LOCATION?ANIMAL?INVERTEBRATE>XW XW=ojLENGTHENER"]),
  (0x1E140, [":NYIAKENG PUACHUE HMONGlumk>kd>kb>ki>km>kq>kz>le>la>li"]),
  (0x1E14E, [":NYIAKENG PUACHUE HMONG LOGOGRAM NYAJ=ooCA"]),
  (0x1E290, [":TOTObPA<BA<TA<DA<KA<GA<MA<NA<na<SA<nk<YA<WA<JA<HA<RA<LA<I<BREATHY I<IU<BREATHY IU<U",
    "<E<BREATHY E<EO<BREATHY EO<O<AE<BREATHY AE<A;fxbmu"]),
  (0x1E2C0, [":WANCHObAA<A<BA<CA<DA<GA<YA<om<LA<NA<PA<TA<nw<FA<SA<nb<JA<ZA<WA<VA<KA<O<AU<RA<MA<nn<",
    "HA<E<I<na<U<LLHA<TSA<TRA<ONG<AANG<ANG<ING<ON<EN<AAN<nl<UEN<YIH;muTUP<TUPNI<KOI<KOINI;lumk<kd<",
    "kb<ki<km<kq<kz<le<la<li"]),
  (0x1E2FF, [":WANCHO NGUNf"]),
  (0x1E7E0, [":qmojHHYA<HHYU<HHYI<HHYAA<HHYEE<HHYE<HHYO"]),
  (0x1E7E8, [":qmojGURAGE HHWA<HHWI<HHWEE<HHWE"]),
  (0x1E7ED, [":qmojGURAGE MWI=MWEE"]),
  (0x1E7F0, [":qmojGURAGE QWI=QWEE=QWE=BWI=BWEE=KWI=KWEE=KWE=GWI=GWEE=GWE=FWI=FWEE=PWI=PWEE"]),
  (0x1E800, [":MENDE KIKAKUIojM001 KI=M002 KA=M003 KU=M065 KEE=M095 KE=M076 KOO=M048 KO=M179 KUA=M",
    "004 WI=M005 WA=M006 WU=M126 WEE=M118 WE=M114 WOO=M045 WO=M194 WUI=M143 WEI=M061 WVI=M049 WVA=",
    "M139 WVE=M007 MIN=M008 MAN=M009 MUN=M059 MEN=M094 MON=M154 MUAN=M189 MUEN=M010 BI=M011 BA=M01",
    "2 BU=M150 BEE=M097 BE=M103 BOO=M138 BO=M013 I=M014 A=M015 U=M163 EE=M100 E=M165 OO=M147 O=M13",
    "7 EI=M131 IN=M135 IN=M195 AN=M178 EN=M019 SI=M020 SA=M021 SU=M162 SEE=M116 SE=M136 SOO=M079 S",
    "O=M196 SIA=M025 LI=M026 LA=M027 LU=M084 LEE=M073 LE=M054 LOO=M153 LO=M110moLE=M016 DI=M017 DA",
    "=M018 DU=M089 DEE=M180 DOO=M181 DO=M022 TI=M023 TA=M024 TU=M091 TEE=M055 TE=M104 TOO=M069 TO=",
    "M028 JI=M029 JA=M030 JU=M157 JEE=M113 JE=M160 JOO=M063 JO=M175moJO=M031 YI=M032 YA=M033 YU=M1",
    "09 YEE=M080 YE=M141 YOO=M121 YO=M034 FI=M035 FA=M036 FU=M078 FEE=M075 FE=M133 FOO=M088 FO=M19",
    "7 FUA=M101 FAN=M037 NIN=M038 NAN=M039pd=M117 NEN=M169 NON=M176 HI=M041 HA=M186 HU=M040 HEE=M0",
    "96 HE=M042 HOO=M140 HO=M083 HEEI=M128 HOOU=M053 HIN=M130 HAN=M087 HUN=M052 HEN=M193 HON=M046 ",
    "HUAN=M090 NGGI=M043 NGGA=M082 NGGU=M115 NGGEE=M146 NGGE=M156 NGGOO=M120 NGGO=M159 NGGAA=M127 ",
    "NGGUA=M086moNGGE=M106moNGGOO=M183moNGGO=M155 GI=M111 GA=M168 GU=M190 GEE=M166 GUEI=M167 GUAN=",
    "M184 NGEN=M057 NGON=M177 NGUAN=M068 PI=M099 PA=M050 PU=M081 PEE=M051 PE=M102 POO=M066 PO=M145",
    " MBI=M062 MBA=M122 MBU=M047 MBEE=M188 MBEE=M072 MBE=M172 MBOO=M174 MBO=M187 MBUU=M161moMBE=M1",
    "05moMBOO=M142moMBO=M132 KPI=M092 KPA=M074 KPU=M044 KPEE=M108 KPE=M112 KPOO=M158 KPO=M124 GBI=",
    "M056 GBA=M148 GBU=M093 GBEE=M107 GBE=M071 GBOO=M070 GBO=M171 RA=M123 NDI=M129 NDA=M125 NDU=M1",
    "91 NDEE=M119 NDE=M067 NDOO=M064 NDO=M152 NJA=M192 NJU=M149 NJEE=M134 NJOO=M182 VI=M185 VA=M15",
    "1 VU=M173 VEE=M085 VE=M144 VOO=M077 VO=M164 NYIN=M058 NYAN=M170 NYUN=M098 NYEN=M060 NYON"]),
  (0x1E8C7, [":MENDE KIKAKUIlukd=kb=ki=km=kq=kz=le=la=li<pjnpTEENS>TENS>HUNDREDS>zf>mrzf>lgzf>MILL",
    "IONS"]),
  (0x1E900, [":ADLAMebALIF=DAALI=LAAM=MIIM=BA=SINNYIIYHE=PE=BHE=RA=E=FA=I=O=pa=YHE=qj=pd=KAF=YA=U=",
    "JIIM=CHI=HA=QAAF=GA=nl=TU=NHA=VA=nn=GBE=ZAL=KPO=nb;cbALIF=DAALI=LAAM=MIIM=BA=SINNYIIYHE=PE=BH",
    "E=RA=E=FA=I=O=pa=YHE=qj=pd=KAF=YA=U=JIIM=CHI=HA=QAAF=GA=nl=TU=NHA=VA=nn=GBE=ZAL=KPO=nb;ALIF L",
    "ENGTHENER;lhLENGTHENER;GEMINATIONkg;pp;tbre;GEMINATEtbre;sp;NASALIZATIONkg"]),
  (0x1E950, [":ADLAMlumk<kd<kb<ki<km<kq<kz<le<la<li"]),
  (0x1E95E, [":ADLAMkrskkg<rwkg"]),
  (0x1EC71, [":INDIC SIYAQnpkd=kb=ki=km=kq=kz=le=la=li=mr=pz=tn=uh=qx=uy=qv=vu=qk=kdlg=kblg=kilg=k",
    "mlg=kqlg=kzlg=lelg=lalg=lilg=kdlq=kblq=kilq=kmlq=kqlq=kzlq=lelq=lalq=lilq=mrlq=pzlq=tnlq=uhlq",
    "=qxlq=uylq=qvlq=vulq=qklq=LAKH=LAKHAN<LAKHkg<npKAROR=KARORAN=PREFIXEDkd>kb>ki>km>kq>kz>le>la>",
    "li<PLACEHOLDER<twkdqy>lf=kiwc<RUPEEkg<nptakd>kb>mrlq<taLAKHkg"]),
  (0x1ED01, [":OTTOMAN SIYAQnpkd=kb=ki=km=kq=kz=le=la=li=mr=pz=tn=uh=qx=uy=qv=vu=qk=kdlg=kblg=kilg",
    "=kmlg=kqlg=kzlg=lelg=lalg=lilg=kdlq=kblq=kilq=kmlq=kqlq=kzlq=lelq=lalq=lilq=mrlq=pzlq=tnlq=uh",
    "lq=qxlq=uylq=qvlq=vulq=qklq<MARRATAN<tanpkb>ki>km>kq>kz>le>la>li>mr>kmlg>kzlg>kblq>mrlq<twkdl",
    "f>SIXTH"]),
  (0x1EE00, [":nxocls<BEH<mn<DAL"]),
  (0x1EE05, [":nxocqj<ZAIN<me<TAH<lp<KAF<LAM<kx<qh<sg<AIN<FEH<SAD<QAF<REH<ua<TEH<THEH<ok<THAL<DAD<",
    "ZAH<uu<vgBEH=qh=FEH=QAF"]),
  (0x1EE21, [":nxockrBEH=mn"]),
  (0x1EE24, [":nxockrHEH"]),
  (0x1EE27, [":nxockrme"]),
  (0x1EE29, [":nxockrlp=KAF=LAM=kx=qh=sg=AIN=FEH=SAD=QAF"]),
  (0x1EE34, [":nxockrua=TEH=THEH=ok"]),
  (0x1EE39, [":nxockrDAD"]),
  (0x1EE3B, [":nxockruu"]),
  (0x1EE42, [":nxocxgmn"]),
  (0x1EE47, [":nxocxgme"]),
  (0x1EE49, [":nxocxglp"]),
  (0x1EE4B, [":nxocxgLAM"]),
  (0x1EE4D, [":nxocxgqh=sg=AIN"]),
  (0x1EE51, [":nxocxgSAD=QAF"]),
  (0x1EE54, [":nxocxgua"]),
  (0x1EE57, [":nxocxgok"]),
  (0x1EE59, [":nxocxgDAD"]),
  (0x1EE5B, [":nxocxguu"]),
  (0x1EE5D, [":nxocxgvgqh"]),
  (0x1EE5F, [":nxocxgvgQAF"]),
  (0x1EE61, [":nxocyrBEH=mn"]),
  (0x1EE64, [":nxocyrHEH"]),
  (0x1EE67, [":nxocyrme=TAH=lp=KAF"]),
  (0x1EE6C, [":nxocyrkx=qh=sg=AIN=FEH=SAD=QAF"]),
  (0x1EE74, [":nxocyrua=TEH=THEH=ok"]),
  (0x1EE79, [":nxocyrDAD=ZAH=uu=vgBEH"]),
  (0x1EE7E, [":nxocyrvgFEH"]),
  (0x1EE80, [":nxocLOOPEDls=BEH=mn=DAL=HEH=qj=ZAIN=me=TAH=lp"]),
  (0x1EE8B, [":nxocLOOPED LAM=kx=qh=sg=AIN=FEH=SAD=QAF=REH=ua=TEH=THEH=ok=THAL=DAD=ZAH=uu"]),
  (0x1EEA1, [":nxocugBEH=mn=DAL"]),
  (0x1EEA5, [":nxocugqj=ZAIN=me=TAH=lp"]),
  (0x1EEAB, [":nxocugLAM=kx=qh=sg=AIN=FEH=SAD=QAF=REH=ua=TEH=THEH=ok=THAL=DAD=ZAH=uu"]),
  (0x1EEF0, [":nxocpokxameaTATWEEL=meaDAL"])
]

end MetesBounds.Text.CharName
