import MetesBounds.Text.CharName.Block

/-!
# `Text/CharName/Western` — the names of Latin, Greek, Cyrillic and Armenian letters and of the
signs among them
-/

set_option autoImplicit false

namespace MetesBounds.Text.CharName

/-- Names of Latin, Greek, Cyrillic and Armenian letters and of the signs among them. -/
def western : List Block := [
  (0x20, [":tm:skkg:rqkg:npf:DOLLARf:PERCENTf:yt:yi:kapt:jpt:pg:kvf:nv:HYPHEN-MINUS:ovnd:sx:lumk;k",
    "d;kb;ki;km;kq;kz;le;la;li:rb:xp:nzf:qrf:obf:rwkg:COMMERCIAL AT:ogebA=B=C=D=E=F=G=H=I=J=K=L=M=",
    "N=O=P=Q=R=S=T=U=V=W=X=Y=Z:kalllj:tfsx:jlllj:msqf:mcmw:niqf:ogcbA=B=C=D=E=F=G=H=I=J=K=L=M=N=O=",
    "P=Q=R=S=T=U=V=W=X=Y=Z:kasilj:kwmw:jsilj:ly"]),
  (0xA0, [":NO-BREAKtm:nmskkg:CENTf:POUNDf:CURRENCYf:YENf:BROKENlb:svf:mz:COPY",
    "RIGHTf:FEMININE ORDI",
    "NALyz:ttkforrqkg:oaf:SOFT HYPHEN:REGISTEREDf:no:DEGREEf:PLUS-MINUSf:wmkb;ki:mgqf:MICROf:PILCR",
    "OWf:kskh:rs:wmkd:MASCULINE ORDINALyz:sukforrqkg:VULGARtwkdqy=lf<kiwc:nmrwkg:ogebAani?mg?ms?ly",
    "?mz?mai=AE=Cars=Eani?mg?ms?mz=Iani?mg?ms?mz=ETH=Naly=Oani?mg?ms?ly?mz:xwf:ogebOako=Uani?mg?ms",
    "?mz=Yamg=THORN;cbSHARP S=Aani?mg?ms?ly?mz?mai=AE=Cars=Eani?mg?ms?mz=Iani?mg?ms?mz=ETH=Naly=Oa",
    "ni?mg?ms?ly?mz:DIVISIONf:ogcbOako=Uani?mg?ms?mz=Yamg=THORN=Yamz;ebAano;cbAano;ebAaoh;cbAaoh;e",
    "bAawa;cbAawa;ebCamg;cbCamg;ebCams;cbCams;ebCakhi;cbCakhi;ebCapi;cbCapi;ebDapi;cbDapi;ebDako;c",
    "bDako;ebEano;cbEano;ebEaoh;cbEaoh;ebEakhi;cbEakhi;ebEawa;cbEawa;ebEapi;cbEapi;ebGams;cbGams;e",
    "bGaoh;cbGaoh;ebGakhi;cbGakhi;ebGars;cbGars;ebHams;cbHams;ebHako;cbHako;ebIaly;cbIaly;ebIano;c",
    "bIano;ebIaoh;cbIaoh;ebIawa;cbIawa;ebIakhi;cbvgI;eqnIJ;cqnIJ;ebJams;cbJams;ebKars;cbKars=KRA;e",
    "bLamg;cbLamg;ebLars;cbLars;ebLapi;cbLapi;ebLakskh;cbLakskh;ebLako;cbLako;ebNamg;cbNamg;ebNars",
    ";cbNars;ebNapi;cbNapi>PRECEDED BYyi;ebENG;cbENG;ebOano;cbOano;ebOaoh;cbOaoh;ebOakfmg;cbOakfmg",
    ";eqnOE;cqnOE;ebRamg;cbRamg;ebRars;cbRars;ebRapi;cbRapi;ebSamg;cbSamg;ebSams;cbSams;ebSars;cbS",
    "ars;ebSapi;cbSapi;ebTars;cbTars;ebTapi;cbTapi;ebTako;cbTako;ebUaly;cbUaly;ebUano;cbUano;ebUao",
    "h;cbUaoh;ebUamai;cbUamai;ebUakfmg;cbUakfmg;ebUawa;cbUawa;ebWams;cbWams;ebYams;cbYams;ebYamz=Z",
    "amg;cbZamg;ebZakhi;cbZakhi;ebZapi;cbZapi=moS=Bako;ebBakn?TOPBAR;cbBaTOPBAR;ebmukz;cbmukz;ebmp",
    "O=Cakn;cbCakn;ebAFRICAN D=Dakn?TOPBAR;cbDaTOPBAR=mqts;ebmyE=SCHWA=mpE=Fakn;cbFakn;ebGakn=ti;c",
    "bHV;ebrd=Iako=Kakn;cbKakn=Lalb=LAMBDAako;ebmqM=Nakakn;cbNamojLEG;ebOaksly?qu;cbOaqu;ebOI;cbOI",
    ";ebPakn;cbPakn;bYR;ebmukb;cbmukb;ebESH;bmyESH LOOP;cbTarvkn;ebTakn;cbTakn;ebTapukn=Uaqu;cbUaq",
    "u;ebrm=Vakn=Yakn;cbYakn;ebZako;cbZako;ebEZH>my;cbEZHmy>aon;bkbako;ebmukq;cbmukq;bnmrzndako<WY",
    "NN<DENTAL CLICK<LATERAL CLICK<ALVEOLAR CLICK<puCLICK;ebDZapi=DacbZapi;cbDZapi;ebLJ=LacbJ;cbLJ",
    ";ebNJ=NacbJ;cbNJ;ebAapi;cbAapi;ebIapi;cbIapi;ebOapi;cbOapi;ebUapi;cbUapi;ebUamzgno;cbUamzgno;",
    "ebUamzgmg;cbUamzgmg;ebUamzgpi;cbUamzgpi;ebUamzgni;cbUamzgni=mqE;ebAamzgno;cbAamzgno;ebAakhign",
    "o;cbAakhigno;ebAEano;cbAEano;ebGako;cbGako;ebGapi;cbGapi;ebKapi;cbKapi;ebOawa;cbOawa;ebOawagn",
    "o;cbOawagno;ebEZHapi;cbEZHapi=Japi;ebDZ=DacbZ;cbDZ;ebGamg;cbGamg;ebHWAIR=WYNN=Nani;cbNani;ebA",
    "amaigmg;cbAamaigmg;ebAEamg;cbAEamg;ebOakogmg;cbOakogmg;ebAakfni;cbAakfni;ebAanmoh;cbAanmoh;eb",
    "Eakfni;cbEakfni;ebEanmoh;cbEanmoh;ebIakfni;cbIakfni;ebIanmoh;cbIanmoh;ebOakfni;cbOakfni;ebOan",
    "moh;cbOanmoh;ebRakfni;cbRakfni;ebRanmoh;cbRanmoh;ebUakfni;cbUakfni;ebUanmoh;cbUanmoh;ebSanvkc",
    ";cbSanvkc;ebTanvkc;cbTanvkc;ebYOGH;cbYOGH;ebHapi;cbHapi;ebNamojLEG;cbDaCURL;ebOU;cbOU;ebZakn;",
    "cbZakn;ebAakhi;cbAakhi;ebEars;cbEars;ebOamzgno;cbOamzgno;ebOalygno;cbOalygno;ebOakhi;cbOakhi;",
    "ebOakhigno;cbOakhigno;ebYano;cbYano=LaCURL=NaCURL=TaCURL=vgJ=DBry=QPry;ebAako=Cako;cbCako;ebL",
    "alb=Tapkko;cbSaSWASHon=ZaSWASHon;ebrznd;cbrznd;ebBako=Ulb=mqV=Eako;cbEako;ebJako;cbJako;ebcQa",
    "knon;cbQaknon;ebRako;cbRako;ebYako;cbYako=mqA=qt=mqqt=Bakn=mpO=CaCURL=Daon?kn=myE=SCHWA>akn=m",
    "pE=mympE?Eakn=qqmympE=vgJako=Gakn=rfG;bceG;cbti=RAMSqu=mqH=Hakn=HENGakn=Iako=rd;bceI;cbLaksly",
    "?BELT?pukn=LEZH=mqM?amoLEG=Makn=Nakakn?pukn;bceN;cbBARRED O;bceOE;cbqqqi=PHI=mqR?amoLEG?akn=R",
    "amoLEG?on?FISHHOOK=myRaFISHHOOK;bceR>nmR;cbSakn=ESH=vgJakogkn=SQUATmyESH=ESHaCURL=mqT=Tapukn=",
    "Ulb=rm=Vakn=mqV>W>Y;bceY;cbZapukn?CURL=EZH>aCURL;brznd<PHARYNGEAL VOICED FRICATIVE<nmrznd<yrC",
    "<BILABIAL CLICK<ceB;cbqqmpE;bceGakn>H;cbJayk=mqK;bceL;cbQakn;brzndako<myrzndako;cbDZry=DEZHry",
    "=DZryaCURL=TSry=TESHry=TCryaCURL=FENGry=LSry=LZry;bBILABIAL PERCUSSIVE<BIDENTAL PERCUSSIVE;cb",
    "mqHaFISHHOOK?aFISHHOOKgon:rebcH>akn=J=R=mqR?akn=enmR=W=Y<PRIME<kfPRIME<mqnv<yi<mynv<jlfma<kal",
    "fma<rznd<myrznd<kanf<jnf<UPnf<ldnf<msqf:pi:rebkwmw<no<mgqf<niqf<mckwmw=no=niqf=mgqf<torb<lfto",
    "rb<CENTREDjlfma=kalfma<UPqw<ldqw<kvf<unf:oh:khi:mai:wa:cly:kfmgqf:rebRHOTICkn<phqf<cti=L=S=X=",
    "myrznd<EXTRA-HIGHmulb<mvmulb<MIDmulb<mcmulb<EXTRA-LOWmulb<YIN DEPARTINGmukg<YANG DEPARTINGmuk",
    "g<VOICING<UNASPIRATED<kfyi<mcldnf=UPnf=kanf=jnf=ma<ksniqf=kfniqf>mgqf<mcly<smrb<BEGINmvmu<END",
    "mvmu<BEGINmcmu<ENDmcmu<SHELF<mpSHELF<mckah:pjniqf;mgqf;msqf;ly;no;OVERLINE;oh;khi;mz;kni;mai;",
    "kfmgqf;pi;kwmwi;kfkwmwi<niqf;rh;nmoh;mqnvi;nvi;mynvi;nvij;niqfkc;mgqfkc;kaqwkc;jqwkc;kaori;qu",
    ";kalfmakc;UPqwkc;ldqwkc;kvfkc;unfkc;PALATALIZEDknkc;puknkc;khkc;mzkc;makc;nvkc;rs;wa;kwmwkc;B",
    "RIDGEkc;nmkfARCHkc;pikc;msqfkc;ohkc;nmohkc;lykc;nokc;mcmw;kfmcmw;lyte;oukote;mokote;ousxte;mo",
    "sxte;jlfmakc;nmBRIDGEkc;llkc;SEAGULLkc;Xi;kwly;kfOVERLINE;nimukg;mgmukg;plpe<KORONIS<vfub<ql;",
    "BRIDGEi;qrfkc;kfkwmwkc;kaorkc;oalyi;HOMOTHETICi;vcltTOi;kajhkc;mfhkc;GRAPHEME JOINER;jnfi;kal",
    "fmai;FERMATA;Xkc;kanfkc;jnfkc=gUPnfkc<lfmai;khij;pgkc;kfmakc;ZIGZAGi;kfohkc=<no=kc<ly<nmoh<kt",
    "hkc;ogcbA>E>I>O>U>C>D>H>M>R>T>V>X:plebHETA;cbHETA;ebtuSAMPI;cbtuSAMPI;NUMERALf;lxNUMERALf;ebP",
    "AMPHYLIAN DIGAMMA;cbPAMPHYLIAN DIGAMMA"]),
  (0x37A, [":plql;cmyLUNATEsnkp<qeLUNATEsnkp<myqeLUNATEsnkp;rwkg;ebYOT"]),
  (0x384, [":plub;vfub;ebqtaub;ANO TELEIA;ebsjaub=ETAaub=rdaub"]),
  (0x38C, [":plebuoaub"]),
  (0x38E, [":plebrmaub=qiaub;cbrdavfgub;ebqt=BETA=ti=ts=sj=ZETA=ETA=sq=rd=um=LAMDA=MU=NU=XI=uo=PI=",
    "RHO"]),
  (0x3A3, [":plebsn=TAU=rm=PHI=CHI=PSI=qi=rdavf=rmavf;cbqtaub=sjaub=ETAaub=rdaub=rmavfgub=qt=BETA=",
    "ti=ts=sj=ZETA=ETA=sq=rd=um=LAMDA=MU=NU=XI=uo=PI=RHO=kesn=sn=TAU=rm=PHI=CHI=PSI=qi=rdavf=rmavf",
    "=uoaub=rmaub=qiaub;eKAIkp;BETAkp;sqkp;rmaknkp=mggknkp=mzgknkp;PHIkp;PIkp;KAIkp;btuKOPPA;cbtuK",
    "OPPA;bSTIGMA;cbSTIGMA;bDIGAMMA;cbDIGAMMA;bKOPPA;cbKOPPA;bSAMPI;cbSAMPI:shebSHEI;cbSHEI;ebFEI;",
    "cbFEI;ebKHEI;cbKHEI;ebHORI;cbHORI;ebGANGIA;cbGANGIA;ebSHIMA;cbSHIMA;ebDEI;cbDEI:plumkp;RHOkp;",
    "LUNATEsnkp;bYOT;esqkp;LUNATEsjkp;myLUNATEsjkp;ebSHO;cbSHO;eLUNATEsnkp<bSAN;cbSAN;RHOakokp;emy",
    "LUNATEsnkp<qeLUNATEsnkp<myqeLUNATEsnkp:wfebIEani=IO=DJE=GJE=UKRAINIAN IE=DZE=BYELORUSSIAN-UKR",
    "AINIAN I=YI=JE=LJE=NJE=TSHE=KJE=Iani=ouU=DZHE=A=BE=VE=GHE=DE=IE=ZHE=ZE=I=ouI=KA=EL=EM=EN=O=PE",
    "=ER=ES=TE=U=EF=HA=TSE=CHE=nb=SHCHA=HARDf=YERU=SOFTf=E=YU=YA;cbA=BE=VE=GHE=DE=IE=ZHE=ZE=I=ouI=",
    "KA=EL=EM=EN=O=PE=ER=ES=TE=U=EF=HA=TSE=CHE=nb=SHCHA=HARDf=YERU=SOFTf=E=YU=YA=IEani=IO=DJE=GJE=",
    "UKRAINIAN IE=DZE=BYELORUSSIAN-UKRAINIAN I=YI=JE=LJE=NJE=TSHE=KJE=Iani=ouU=DZHE;ebqi;cbqi;ebYA",
    "T;cbYAT;ebvkE;cbvkE;ebolYUS;cbolYUS;ebvkolYUS;cbvkolYUS;ebBIG YUS;cbBIG YUS;ebvkBIG YUS;cbvkB",
    "IG YUS;ebKSI;cbKSI;ebPSI;cbPSI;ebFITA;cbFITA;ebIZHITSA;cbIZHITSA;ebIZHITSAakfniqf;cbIZHITSAak",
    "fniqf;ebUK;cbUK;ebROUNDqi;cbROUNDqi;ebqiaTITLO;cbqiaTITLO;ebOT;cbOT;ebKOPPA;cbKOPPA;zff:pjwfT",
    "ITLO<PALATALIZATION<mtPNEUMATA<mxPNEUMATA<POKRYTIE<lgzff<MILLIONSf:wfebouIaon;cbouIaon;ebSEMI",
    "SOFTf;cbSEMISOFTf;ebERaTICK;cbERaTICK;ebGHEaUPTURN;cbGHEaUPTURN;ebGHEako;cbGHEako;ebGHEakskn;",
    "cbGHEakskn;ebZHEaqc;cbZHEaqc;ebZEaqc;cbZEaqc;ebKAaqc;cbKAaqc;ebKAakwko;cbKAakwko;ebKAako;cbKA",
    "ako;ebBASHKIR KA;cbBASHKIR KA;ebENaqc;cbENaqc;eqnEN GHE;cqnEN GHE;ebPEakskn;cbPEakskn;ebysHA;",
    "cbysHA;ebESaqc;cbESaqc;ebTEaqc;cbTEaqc;ebsyU;cbsyU;ebsyUako;cbsyUako;ebHAaqc;cbHAaqc;eqnTE TS",
    "E;cqnTE TSE;ebCHEaqc;cbCHEaqc;ebCHEakwko;cbCHEakwko;ebSHHA;cbSHHA;ebysCHE;cbysCHE;ebysCHEaqc;",
    "cbysCHEaqc;bPALOCHKA;ebZHEaoh;cbZHEaoh;ebKAakn;cbKAakn;ebELaon;cbELaon;ebENakn;cbENakn;ebENao",
    "n;cbENaon;ebKHAKASSIAN CHE;cbKHAKASSIAN CHE;ebEMaon;cbEMaon=PALOCHKA;ebAaoh;cbAaoh;ebAamz;cbA",
    "amz;eqnA IE;cqnA IE;ebIEaoh;cbIEaoh;ebSCHWA;cbSCHWA;ebSCHWAamz;cbSCHWAamz;ebZHEamz;cbZHEamz;e",
    "bZEamz;cbZEamz;ebysDZE;cbysDZE;ebIano;cbIano;ebIamz;cbIamz;ebOamz;cbOamz;ebBARRED O;cbBARRED ",
    "O;ebBARRED Oamz;cbBARRED Oamz;ebEamz;cbEamz;ebUano;cbUano;ebUamz;cbUamz;ebUakfmg;cbUakfmg;ebC",
    "HEamz;cbCHEamz;ebGHEaqc;cbGHEaqc;ebYERUamz;cbYERUamz;ebGHEakogkn;cbGHEakogkn;ebHAakn;cbHAakn;",
    "ebHAako;cbHAako;ebKOMI DE;cbKOMI DE;ebKOMI DJE;cbKOMI DJE;ebKOMI ZJE;cbKOMI ZJE;ebKOMI DZJE;c",
    "bKOMI DZJE;ebKOMI LJE;cbKOMI LJE;ebKOMI NJE;cbKOMI NJE;ebKOMI SJE;cbKOMI SJE;ebKOMI TJE;cbKOM",
    "I TJE;ebmyZE;cbmyZE;ebELakn;cbELakn;ebLHA;cbLHA;ebRHA;cbRHA;ebYAE;cbYAE;ebQA;cbQA;ebWE;cbWE;e",
    "bALEUT KA;cbALEUT KA;ebELakskn;cbELakskn;ebENakskn;cbENakskn;ebPEaqc;cbPEaqc;ebSHHAaqc;cbSHHA",
    "aqc;ebENakakn;cbENakakn;ebDZZHE;cbDZZHE;ebDCHE;cbDCHE;ebELaqc;cbELaqc"]),
  (0x531, [":ARMENIANebAYB=BEN=GIM=DA=ECH=ZA=EH=ET=TO=ZHE=INI=LIWN=XEH=CA=KEN=HO=JA=GHAD=CHEH=MEN=",
    "YI=NOW=nb=VO=nk=PEH=JHEH=RA=SEH=VEW=TIWN=REH=CO=YIWN=PIWR=KEH=OH=FEH"]),
  (0x559, [":ARMENIANrebkalfma;yi;EMPHASISkg;skkg;nv;rwkg;uckg;cbmqAYB=AYB=BEN=GIM=DA=ECH=ZA=EH=ET",
    "=TO=ZHE=INI=LIWN=XEH=CA=KEN=HO=JA=GHAD=CHEH=MEN=YI=NOW=nb=VO=nk=PEH=JHEH=RA=SEH=VEW=TIWN=REH=",
    "CO=YIWN=PIWR=KEH=OH=FEH<qnECH YIWN<bYIako;ovnd;HYPHEN"]),
  (0x58D, [":RIGHT-FACING ARMENIAN ETERNITYf:LEFT-FACING ARMENIAN ETERNITYf:ARMENIAN DRAMf"])
]

end MetesBounds.Text.CharName
