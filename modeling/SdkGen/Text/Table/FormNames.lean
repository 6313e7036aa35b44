/-!
# Names of forms

The names of the characters from A000 up to FFFF, among which are the forms of letters. The rows are read
by `CharacterName.find?`.
-/

namespace SdkGen.Text.Table

/-- The names of the characters from A000 up to FFFF, among which are the forms of letters. -/
def formNames : List String :=
  ["0YIvsIT,2IX,2I,2IP,2IET,2IEX,2IE,2IEP,2AT,2AX,2A,2AP,2UOX,2UO,2UOP,2OT,2OX,2O,2OP,2EX,2E,2WU,2BIT",
   "2BIX,2BI,2BIP,2BIET,2BIEX,2BIE,2BIEP,2BAT,2BAX,2BA,2BAP,2BUOX,2BUO,2BUOP,2BOT,2cg,2BO,2BOP,2BEX,2BE",
   "2BEP,2BUT,2BUX,2BU,2BUP,2BURX,2BUR,2BYT,2BYX,2BY,2BYP,2BYRX,2BYR,2PIT,2PIX,2PI,2PIP,2PIEX,2PIE,2PIEP",
   "2PAT,2PAX,2PA,2qc,2PUOX,2PUO,2PUOP,2POT,2POX,2PO,2POP,2PUT,2PUX,2PU,2PUP,2PURX,2PUR,2PYT,2PYX,2PY",
   "2PYP,2PYRX,2PYR,2BBIT,2BBIX,2BBI,2BBIP,2BBIET,2BBIEX,2BBIE,2BBIEP,2BBAT,2BBAX,2BBA,2BBAP,2BBUOX",
   "2BBUO,2BBUOP,2BBOT,2BBOX,2BBO,2BBOP,2BBEX,2BBE,2BBEP,2BBUT,2BBUX,2BBU,2BBUP,2BBURX,2BBUR,2BBYT,2BBYX",
   "2BBY,2BBYP,2NBIT,2NBIX,2NBI,2NBIP,2NBIEX,2NBIE,2NBIEP,2NBAT,2NBAX,2NBA,2NBAP,2NBOT,2NBOX,2NBO,2NBOP",
   "2NBUT,2NBUX,2NBU,2NBUP,2NBURX,2NBUR,2NBYT,2NBYX,2NBY,2NBYP,2NBYRX,2NBYR,2HMIT,2HMIX,2HMI,2HMIP",
   "2HMIEX,2HMIE,2HMIEP,2HMAT,2HMAX,2HMA,2HMAP,2HMUOX,2HMUO,2HMUOP,2HMOT,2HMOX,2HMO,2HMOP,2HMUT,2HMUX",
   "2HMU,2HMUP,2HMURX,2HMUR,2HMYX,2HMY,2HMYP,2HMYRX,2HMYR,2MIT,2MIX,2MI,2MIP,2MIEX,2MIE,2MIEP,2MAT,2MAX",
   "2MA,2MAP,2MUOT,2MUOX,2MUO,2MUOP,2MOT,2MOX,2MO,2MOP,2MEX,2ME,2MUT,2MUX,2MU,2MUP,2MURX,2MUR,2MYT,2MYX",
   "2MY,2MYP,2FIT,2FIX,2FI,2FIP,2FAT,2FAX,2FA,2FAP,2FOX,2FO,2FOP,2FUT,2FUX,2FU,2FUP,2FURX,2FUR,2FYT,2FYX",
   "2FY,2FYP,2VIT,2VIX,2VI,2VIP,2VIET,2VIEX,2VIE,2VIEP,2VAT,2VAX,2VA,2VAP,2VOT,2VOX,2VO,2VOP,2VEX,2VEP",
   "2VUT,2VUX,2VU,2VUP,2VURX,2VUR,2VYT,2VYX,2VY,2VYP,2VYRX,2VYR,2DIT,2DIX,2DI,2DIP,2DIEX,2DIE,2DIEP,2DAT",
   "2DAX,2DA,2DAP,2DUOX,2DUO,2fo,2DOX,2DO,2DOP,2DEX,2DE,2DEP,2DUT,2DUX,2DU,2DUP,2DURX,2DUR,2TIT,2TIX,2TI",
   "2TIP,2TIEX,2TIE,2TIEP,2TAT,2TAX,2TA,2TAP,2TUOT,2TUOX,2TUO,2TUOP,2TOT,2TOX,2TO,2xh,2TEX,2TE,2TEP,2TUT",
   "2TUX,2TU,2TUP,2TURX,2TUR,2DDIT,2DDIX,2DDI,2DDIP,2DDIEX,2DDIE,2DDIEP,2DDAT,2DDAX,2eu,2DDAP,2DDUOX",
   "2DDUO,2DDUOP,2DDOT,2DDOX,2DDO,2DDOP,2DDEX,2DDE,2DDEP,2DDUT,2DDUX,2DDU,2DDUP,2DDURX,2DDUR,2NDIT,2NDIX",
   "2NDI,2NDIP,2NDIEX,2NDIE,2NDAT,2NDAX,2NDA,2NDAP,2NDOT,2NDOX,2NDO,2NDOP,2NDEX,2NDE,2NDEP,2NDUT,2NDUX",
   "2NDU,2NDUP,2NDURX,2NDUR,2HNIT,2HNIX,2HNI,2HNIP,2HNIET,2HNIEX,2HNIE,2HNIEP,2HNAT,2HNAX,2HNA,2HNAP",
   "2HNUOX,2HNUO,2HNOT,2HNOX,2HNOP,2HNEX,2HNE,2HNEP,2HNUT,2NIT,2NIX,2NI,2NIP,2NIEX,2NIE,2NIEP,2NAX,2NA",
   "2NAP,2NUOX,2NUO,2NUOP,2ox,2NOX,2NO,2NOP,2NEX,2NE,2NEP,2NUT,2NUX,2NU,2NUP,2NURX,2NUR,2HLIT,2HLIX,2HLI",
   "2HLIP,2HLIEX,2HLIE,2HLIEP,2HLAT,2HLAX,2HLA,2HLAP,2HLUOX,2HLUO,2HLUOP,2HLOX,2HLO,2HLOP,2HLEX,2HLE",
   "2HLEP,2HLUT,2HLUX,2HLU,2HLUP,2HLURX,2HLUR,2HLYT,2HLYX,2HLY,2HLYP,2HLYRX,2HLYR,2LIT,2LIX,2LI,2LIP",
   "2LIET,2LIEX,2LIE,2LIEP,2LAT,2LAX,2LA,2LAP,2LUOT,2LUOX,2LUO,2LUOP,2LOT,2LOX,2LO,2LOP,2LEX,2LE,2LEP",
   "2LUT,2LUX,2LU,2LUP,2LURX,2LUR,2LYT,2LYX,2LY,2LYP,2LYRX,2LYR,2GIT,2GIX,2GI,2GIP,2GIET,2GIEX,2GIE",
   "2GIEP,2GAT,2GAX,2GA,2GAP,2GUOT,2GUOX,2GUO,2GUOP,2GOT,2GOX,2GO,2GOP,2GET,2GEX,2GE,2GEP,2GUT,2GUX,2GU",
   "2GUP,2GURX,2GUR,2KIT,2KIX,2KI,2KIP,2KIEX,2KIE,2KIEP,2KAT,2KAX,2KA,2KAP,2KUOX,2KUO,2KUOP,2KOT,2KOX",
   "2KO,2KOP,2KET,2KEX,2KE,2KEP,2KUT,2KUX,2KU,2KUP,2KURX,2lx,2GGIT,2GGIX,2GGI,2GGIEX,2GGIE,2GGIEP,2GGAT",
   "2GGAX,2GGA,2GGAP,2GGUOT,2GGUOX,2GGUO,2GGUOP,2GGOT,2GGOX,2GGO,2GGOP,2GGET,2GGEX,2GGE,2GGEP,2GGUT",
   "2GGUX,2GGU,2GGUP,2GGURX,2GGUR,2MGIEX,2MGIE,2MGAT,2MGAX,2MGA,2MGAP,2MGUOX,2MGUO,2MGUOP,2MGOT,2MGOX",
   "2MGO,2MGOP,2MGEX,2MGE,2MGEP,2MGUT,2MGUX,2MGU,2MGUP,2MGURX,2MGUR,2HXIT,2HXIX,2HXI,2HXIP,2HXIET,2HXIEX",
   "2HXIE,2HXIEP,2HXAT,2HXAX,2HXA,2HXAP,2HXUOT,2HXUOX,2HXUO,2HXUOP,2HXOT,2HXOX,2HXO,2HXOP,2HXEX,2HXE",
   "2HXEP,2NGIEX,2NGIE,2NGIEP,2NGAT,2NGAX,2on,2NGAP,2NGUOT,2NGUOX,2NGUO,2NGOT,2NGOX,2NGO,2NGOP,2NGEX",
   "2NGE,2NGEP,2HIT,2HIEX,2HIE,2HAT,2HAX,2HA,2HAP,2HUOT,2HUOX,2HUO,2HUOP,2HOT,2HOX,2HO,2HOP,2HEX,2HE",
   "2HEP,2WAT,2WAX,2WA,2WAP,2WUOX,2WUO,2WUOP,2WOX,2WO,2WOP,2WEX,2WE,2WEP,2ZIT,2ZIX,2ZI,2ZIP,2ZIEX,2ZIE",
   "2ZIEP,2ZAT,2ZAX,2ZA,2ZAP,2ZUOX,2ZUO,2ZUOP,2ZOT,2ZOX,2ZO,2ZOP,2ZEX,2ZE,2ZEP,2ZUT,2ZUX,2ZU,2ZUP,2ZURX",
   "2ZUR,2ZYT,2ZYX,2ZY,2ZYP,2ZYRX,2ZYR,2CIT,2CIX,2CI,2CIP,2CIET,2CIEX,2CIE,2CIEP,2CAT,2CAX,2CA,2CAP",
   "2CUOX,2CUO,2CUOP,2COT,2COX,2CO,2COP,2CEX,2CE,2CEP,2CUT,2CUX,2CU,2CUP,2CURX,2CUR,2CYT,2CYX,2CY,2CYP",
   "2CYRX,2CYR,2ZZIT,2ZZIX,2ZZI,2ZZIP,2ZZIET,2ZZIEX,2ZZIE,2ZZIEP,2ZZAT,2ZZAX,2ZZA,2ZZAP,2ZZOX,2ZZO,2ZZOP",
   "2ZZEX,2ZZE,2ZZEP,2ZZUX,2ZZU,2ZZUP,2ZZURX,2ZZUR,2ZZYT,2ZZYX,2ZZY,2ZZYP,2ZZYRX,2ZZYR,2NZIT,2NZIX,2NZI",
   "2NZIP,2NZIEX,2NZIE,2NZIEP,2NZAT,2NZAX,2NZA,2NZAP,2NZUOX,2NZUO,2NZOX,2NZOP,2NZEX,2NZE,2NZUX,2NZU",
   "2NZUP,2NZURX,2NZUR,2NZYT,2NZYX,2NZY,2NZYP,2NZYRX,2NZYR,2SIT,2uf,2SI,2SIP,2SIEX,2SIE,2SIEP,2SAT,2SAX",
   "2SA,2SAP,2SUOX,2SUO,2SUOP,2SOT,2SOX,2SO,2SOP,2SEX,2SE,2SEP,2SUT,2SUX,2SU,2SUP,2SURX,2SUR,2SYT,2SYX",
   "2SY,2SYP,2SYRX,2SYR,2SSIT,2SSIX,2SSI,2SSIP,2SSIEX,2SSIE,2SSIEP,2SSAT,2SSAX,2uy,2SSAP,2SSOT,2SSOX",
   "2SSO,2SSOP,2SSEX,2SSE,2SSEP,2SSUT,2SSUX,2SSU,2SSUP,2SSYT,2SSYX,2SSY,2SSYP,2SSYRX,2SSYR,2ZHAT,2ZHAX",
   "2zx,2ZHAP,2ZHUOX,2ZHUO,2ZHUOP,2ZHOT,2ZHOX,2ZHO,2ZHOP,2ZHET,2ZHEX,2zy,2ZHEP,2ZHUT,2ZHUX,2ZHU,2ZHUP",
   "2ZHURX,2ZHUR,2ZHYT,2ZHYX,2ZHY,2ZHYP,2ZHYRX,2ZHYR,2CHAT,2CHAX,2cy,2CHAP,2CHUOT,2CHUOX,2CHUO,2CHUOP",
   "2CHOT,2CHOX,2CHO,2CHOP,2CHET,2CHEX,2db,2CHEP,2CHUX,2CHU,2CHUP,2CHURX,2CHUR,2CHYT,2CHYX,2CHY,2CHYP",
   "2CHYRX,2CHYR,2RRAX,2sn,2RRUOX,2RRUO,2RROT,2RROX,2RRO,2RROP,2RRET,2RREX,2RRE,2RREP,2RRUT,2RRUX,2RRU",
   "2RRUP,2RRURX,2RRUR,2RRYT,2RRYX,2RRY,2RRYP,2RRYRX,2RRYR,2NRAT,2NRAX,2NRA,2NRAP,2NROX,2NRO,2NROP,2NRET",
   "2NREX,2NRE,2NREP,2NRUT,2NRUX,2NRU,2NRUP,2NRURX,2NRUR,2NRYT,2NRYX,2NRY,2NRYP,2NRYRX,2NRYR,2SHAT,2SHAX",
   "2tj,2SHAP,2SHUOX,2SHUO,2SHUOP,2SHOT,2SHOX,2SHO,2SHOP,2SHET,2SHEX,2tq,2SHEP,2SHUT,2SHUX,2SHU,2SHUP",
   "2SHURX,2SHUR,2SHYT,2SHYX,2SHY,2SHYP,2SHYRX,2SHYR,2RAT,2RAX,2RA,2RAP,2RUOX,2RUO,2RUOP,2ROT,2ROX,2RO",
   "2ROP,2REX,2RE,2REP,2RUT,2RUX,2RU,2RUP,2RURX,2RUR,2RYT,2RYX,2RY,2RYP,2RYRX,2RYR,2JIT,2JIX,2JI,2JIP",
   "2JIET,2JIEX,2JIE,2JIEP,2JUOT,2JUOX,2JUO,2JUOP,2JOT,2JOX,2JO,2JOP,2JUT,2JUX,2JU,2JUP,2JURX,2JUR,2JYT",
   "2JYX,2JY,2JYP,2JYRX,2JYR,2QIT,2QIX,2QI,2QIP,2QIET,2QIEX,2QIE,2QIEP,2QUOT,2QUOX,2QUO,2QUOP,2QOT,2QOX",
   "2QO,2QOP,2QUT,2QUX,2QU,2QUP,2QURX,2QUR,2QYT,2QYX,2QY,2QYP,2QYRX,2QYR,2JJIT,2JJIX,2JJI,2JJIP,2JJIET",
   "2JJIEX,2JJIE,2JJIEP,2JJUOX,2JJUO,2JJUOP,2JJOT,2JJOX,2JJO,2JJOP,2JJUT,2JJUX,2JJU,2JJUP,2JJURX,2JJUR",
   "2JJYT,2JJYX,2JJY,2JJYP,2NJIT,2NJIX,2NJI,2NJIP,2NJIET,2NJIEX,2NJIE,2NJIEP,2NJUOX,2NJUO,2NJOT,2NJOX",
   "2NJO,2NJOP,2NJUX,2NJU,2NJUP,2NJURX,2NJUR,2NJYT,2NJYX,2NJY,2NJYP,2NJYRX,2NJYR,2NYIT,2NYIX,2NYI,2NYIP",
   "2NYIET,2NYIEX,2NYIE,2NYIEP,2NYUOX,2NYUO,2NYUOP,2NYOT,2NYOX,2NYO,2NYOP,2NYUT,2NYUX,2NYU,2NYUP,2XIT",
   "2XIX,2XI,2XIP,2XIET,2XIEX,2XIE,2XIEP,2XUOX,2XUO,2XOT,2XOX,2XO,2XOP,2XYT,2XYX,2XY,2XYP,2XYRX,2XYR",
   "2YIT,2YIX,2YI,2YIP,2YIET,2YIEX,2YIE,2YIEP,2YUOT,2YUOX,2YUO,2YUOP,2YOT,2YOX,2YO,2YOP,2YUT,2YUX,2YU",
   "2YUP,2YURX,2YUR,2YYT,2YYX,2YY,2YYP,2YYRX,2YYR,+3,1RADICAL QOT,2LI,2KIT,2NYIP,2CYP,2SSI,2GGOP,2GEP",
   "2MI,2HXIT,2LYR,2BBUT,2MOP,2YO,2PUT,2HXUO,2TAT,2GA,2ZUP,2CYT,2DDUR,2BUR,2GGUO,2NYOP,2TU,2OP,2JJUT",
   "2ZOT,2PYT,2HMO,2YIT,2VUR,2SHY,2VEP,2ZA,2JO,2NZUP,2JJY,2GOT,2JJIE,2WO,2DU,2SHUR,2LIE,2CY,2CUOP,2CIP",
   "2HXOP,2SHAT,2ZUR,2SHOP,2db,2ZZIET,2NBIE,2KE,+9,0LISUmqBA,2PA,2ql,2DA,2TA,2wh,2GA,2KA,2lm,2JA,2CA,2cy",
   "2DZA,2xo,2xp,2MA,2NA,2LA,2SA,2zx,2ZA,2on,2HA,2XA,2HHA,2FA,2WA,2tj,2YA,2ii,2A,2AE,2E,2EU,2I,2O,2U,2UE",
   "2UH,2OE,2xaMYA TI,3NA PO,3MYA CYA,4BO,4NA,4JEU,1rcdr,2icvd,0VAIvsEE,2EEN,2HEE,2WEE,2WEEN,2PEE,2BHEE",
   "2BEE,2MBEE,2KPEE,2MGBEE,2GBEE,2FEE,2VEE,2TEE,2THEE,2DHEE,2DHHEE,2LEE,2REE,2DEE,2NDEE,2SEE,2SHEE,2ZEE",
   "2ZHEE,2CEE,2JEE,2NJEE,2YEE,2KEE,2NGGEE,2GEE,2MEE,2NEE,2NYEE,2I,2IN,2HI,2HIN,2WI,2WIN,2PI,2BHI,2BI",
   "2MBI,2KPI,2MGBI,2GBI,2FI,2VI,2TI,2THI,2DHI,2DHHI,2LI,2RI,2DI,2NDI,2SI,2SHI,2ZI,2ZHI,2CI,2JI,2NJI,2YI",
   "2KI,2NGGI,2GI,2MI,2NI,2NYI,2A,2AN,2NGAN,2HA,2HAN,2WA,2WAN,2PA,2by,2BA,2MBA,2KPA,2KPAN,2MGBA,2GBA,2FA",
   "2VA,2TA,2wh,2ez,2DHHA,2LA,2RA,2DA,2NDA,2SA,2tj,2ZA,2zx,2CA,2JA,2NJA,2YA,2KA,2KAN,2NGGA,2GA,2MA,2NA",
   "2ph,2OO,2OON,2HOO,2WOO,2WOON,2POO,2BHOO,2BOO,2MBOO,2KPOO,2MGBOO,2GBOO,2FOO,2VOO,2TOO,2THOO,2DHOO",
   "2DHHOO,2LOO,2ROO,2DOO,2NDOO,2SOO,2SHOO,2ZOO,2ZHOO,2COO,2JOO,2NJOO,2YOO,2KOO,2NGGOO,2GOO,2MOO,2NOO",
   "2NYOO,2U,2UN,2HU,2HUN,2WU,2WUN,2PU,2BHU,2BU,2MBU,2KPU,2MGBU,2GBU,2FU,2VU,2TU,2THU,2DHU,2DHHU,2LU,2RU",
   "2DU,2NDU,2SU,2SHU,2ZU,2ZHU,2CU,2JU,2NJU,2YU,2KU,2NGGU,2GU,2MU,2NU,2NYU,2O,2ON,2NGON,2HO,2HON,2WO",
   "2WON,2PO,2BHO,2BO,2MBO,2KPO,2MGBO,2GBO,2GBON,2FO,2VO,2TO,2wr,2DHO,2DHHO,2LO,2RO,2DO,2NDO,2SO,2SHO",
   "2ZO,2ZHO,2CO,2JO,2NJO,2YO,2KO,2NGGO,2GO,2MO,2NO,2NYO,2E,2EN,2NGEN,2HE,2HEN,2WE,2WEN,2PE,2BHE,2BE",
   "2MBE,2KPE,2KPEN,2MGBE,2GBE,2GBEN,2FE,2VE,2TE,2wi,2DHE,2DHHE,2LE,2RE,2DE,2NDE,2SE,2tq,2ZE,2zy,2CE,2JE",
   "2NJE,2YE,2KE,2NGGE,2NGGEN,2GE,2GEN,2ME,2NE,2NYE,2NG,2LENGTHENER,1dr,1icvd,1rknk,1vsNDOLE FA,3KA,3SOO",
   "1vtFEENG,2KEENG,2TING,2NII,2BANG,2FAA,2TAA,2DANG,2DOONG,2KUNG,2TONG,2DO-O,2JONG,1fhzv,2po,2ya,2wu",
   "2hy,2hq,2uf,2tg,2gc,2oq,1vsNDOLE MA,3DO,+14,0elcpmqZEMLYA,1ulmqZEMLYA,1cpmqDZELO,1ulmqDZELO",
   "1cpmqrtDZE,1ulmqrtDZE,1cpmqkq,1ulmqkq,1cpmqDJERV,1ulmqDJERV,1cpmqMONOGRAPH UK,1ulmqMONOGRAPH UK",
   "1cpmqBROADpm,1ulmqBROADpm,1cpmqomYER,1ulmqomYER,1cpmqznzebiYER,1ulmqznzebiYER,1cpmqksYAT,1ulmqksYAT",
   "1cpmqrtYU,1ulmqrtYU,1cpmqksA,1ulmqksA,1cpmqdnmuzq,1ulmqdnmuzq,1cpmqBLENDEDzq,1ulmqBLENDEDzq",
   "1cpmqksdnmuzq,1ulmqksdnmuzq,1cpmqYN,1ulmqYN,1cpmqrtTSE,1ulmqrtTSE,1cpmqunDE,1ulmqunDE,1cpmqunEL",
   "1ulmqunEL,1cpmqunEM,1ulmqunEM,1cpmqMONOCULAR O,1ulmqMONOCULAR O,1cpmqBINOCULAR O,1ulmqBINOCULAR O",
   "1cpmqfsMONOCULAR O,1ulmqfsMONOCULAR O,1mqMULTIOCULAR O,0dqelVZMET,2wfnuua,2jwnuua,2wsnuua",
   "0SLAVONICbe,0dqelmqUKRAINIAN IE,3I,3YI,3U,3HARDua,3zn,3unua,3pm,2KAVYKA,2PAYEROK,0elKAVYKA,1PAYEROK",
   "1cpmqDWE,1ulmqDWE,1cpmqDZWE,1ulmqDZWE,1cpmqZHWE,1ulmqZHWE,1cpmqCCHE,1ulmqCCHE,1cpmqDZZE,1ulmqDZZE",
   "1cpmqTEzensjs,1ulmqTEzensjs,1cpmqTWE,1ulmqTWE,1cpmqTSWE,1ulmqTSWE,1cpmqTSSE,1ulmqTSSE,1cpmqTCHE",
   "1ulmqTCHE,1cpmqHWE,1ulmqHWE,1cpmqSHWE,1ulmqSHWE,1cpmqfsO,1ulmqfsO,1cpmqedO,1ulmqedO,0nwmqelHARDua",
   "3unua,0dqelmqEF,3ksE,0BAMUMmqA,2KA,2U,2KU,2EE,2REE,2TAE,2O,2NYI,2I,2LA,2PA,2RII,2RIEE,2LEEEE,2MEEEE",
   "2TAA,2NDAA,2NJAEM,2M,2SUU,2MU,2SHII,2SI,2SHEUX,2SEUX,2KYEE,2KET,2NUAE,2NU,2NJUAE,2YOQ,2SHU,2YUQ,2YA",
   "2NSHA,2KEUX,2PEUX,2NJEE,2NTEE,2PUE,2WUE,2PEE,2FEE,2RU,2LU,2MI,2NI,2REUX,2RAE,2KEN,2NGKWAEN,2NGGA,2on",
   "2SHO,2PUAE,2FU,2FOM,2WA,2NA,2LI,2PI,2LOQ,2KO,2MBEN,2REN,2MEN,2MA,2TI,2KI,2MO,2MBAA,2TET,2KPA,2wf",
   "2NTUU,2SAMBA,2FAAMAE,2KOVUU,2KOGHOM,1dqnkKOQNDON,3TUKWENTIS,1NJAEMLI,1icvd,1dp,1dr,1td,1rknk,+8",
   "0nwmqCHINESExaYIN PING,4zkPING,4YIN SHANG,4zkSHANG,4YIN QU,4zkQU,4YIN RU,4zkRU,2EXTRA-HIGHfrxabo",
   "2jnfrxabo,2MIDfrxabo,2nafrxabo,2EXTRA-LOWfrxabo,2EXTRA-HIGHfrmjxabo,2jnfrmjxabo,2MIDfrmjxabo",
   "2nafrmjxabo,2EXTRA-LOWfrmjxabo,2EXTRA-HIGHmjxabo,2jnmjxabo,2MIDmjxabo,2namjxabo,2EXTRA-LOWmjxabo",
   "2foynbo,3uk,3jtbo,2nbrzdzaq,2rmUPba,3fvba,3gvnk,3kpgvnk,2nakpgvnk,2STRESSapjnxa,4naxa,0mecpmqgbah",
   "1ulmqgbah,1cpmqgbaf,1ulmqgbaf,1cpmqHENG,1ulmqHENG,1cpmqTZ,1ulmqTZ,1cpmqTRESILLO,1ulmqTRESILLO",
   "1cpmqCUATRILLO,1ulmqCUATRILLO,1cpmqCUATRILLOzedr,1ulmqCUATRILLOzedr,1mqulcpF,4S,1cpmqAA,1ulmqAA",
   "1cpmqAO,1ulmqAO,1cpmqAU,1ulmqAU,1cpmqAV,1ulmqAV,1cpmqAVzejtbo,1ulmqAVzejtbo,1cpmqAY,1ulmqAY",
   "1cpmqrtCzefo,1ulmqrtCzefo,1cpmqKzevf,1ulmqKzevf,1cpmqKzefbvf,1ulmqKzefbvf,1cpmqKzevfapfbvf",
   "1ulmqKzevfapfbvf,1cpmqBROKEN L,1ulmqBROKEN L,1cpmqLzejnvf,1ulmqLzejnvf,1cpmqOzemxvfpx,1ulmqOzemxvfpx",
   "1cpmqOzemz,1ulmqOzemz,1cpmqOO,1ulmqOO,1cpmqPzevfwvey,1ulmqPzevfwvey,1cpmqPzeFLOURISH",
   "1ulmqPzeFLOURISH,1cpmqPzeSQUIRRELvw,1ulmqPzeSQUIRRELvw,1cpmqQzevfwvey,1ulmqQzevfwvey,1cpmqQzefbvf",
   "1ulmqQzefbvf,1cpmqR ROTUNDA,1ulmqR ROTUNDA,1cpmqRUM ROTUNDA,1ulmqRUM ROTUNDA,1cpmqVzefbvf",
   "1ulmqVzefbvf,1cpmqVY,1ulmqVY,1cpmqVISIGOTHIC Z,1ulmqVISIGOTHIC Z,1cpmqTHORNzevf,1ulmqTHORNzevf",
   "1cpmqTHORNzevfwvey,1ulmqTHORNzevfwvey,1cpmqVEND,1ulmqVEND,1cpmqET,1ulmqET,1cpmqIS,1ulmqIS,1cpmqCON",
   "1ulmqCON,0nwmqUS,0meulmqDUM,3LUM,3MUM,3NUM,3RUM,1mqulcpRUM,1ulmqTUM,3UM,1cpmqkkD,1ulmqkkD,1cpmqkkF",
   "1ulmqkkF,1cpmqkkG,3xukkG,1ulmqxukkG,1cpmqxuL,1ulmqxuL,1cpmqkkR,1ulmqkkR,1cpmqkkS,1ulmqkkS,1cpmqkkT",
   "1ulmqkkT,0nwmqnadkad,2dp,2tvgpua,0mecpmqSALTILLO,1ulmqSALTILLO,1cpmqxuH,1ulmqLzerrjsapBELT",
   "1mqSINOLOGICALfo,1cpmqNzeey,1ulmqNzeey,1cpmqCzebo,1ulmqCzebo,5qbjs,3Hzeqbjs,1cpmqBzeFLOURISH",
   "1ulmqBzeFLOURISH,1cpmqFzevf,1ulmqFzevf,1cpmqyuAE,1ulmqyuAE,1cpmqyuOE,1ulmqyuOE,1cpmqyuUE,1ulmqyuUE",
   "1cpmqGzepivf,1ulmqGzepivf,1cpmqKzepivf,1ulmqKzepivf,1cpmqNzepivf,1ulmqNzepivf,1cpmqRzepivf",
   "1ulmqRzepivf,1cpmqSzepivf,1ulmqSzepivf,1cpmqHzejs,3rtppE,3sxG,3LzeBELT,3ulcpI,1mqulcpQ,1cpmqxuK,4T",
   "3Jzeee,3de,3bv,1ulmqbv,1cpmqpm,1ulmqpm,1cpmqUzevf,1ulmqUzevf,1cpmqinA,1ulmqinA,1cpmqinI,1ulmqinI",
   "1cpmqinU,1ulmqinU,1cpmqplPOLISH O,1ulmqplPOLISH O,1cpmqANGLICANA W,1ulmqANGLICANA W,1cpmqCzeqbjs",
   "3Szejs,3Zzeqbjs,3Dzetvvfpx,1ulmqDzetvvfpx,1cpmqSzetvvfpx,1ulmqSzetvvfpx,+5,1cpmqdnkkG,1ulmqdnkkG,+1",
   "3fsTHORN,+1,4WYNN,1cpmqnsSCOTS S,1ulmqnsSCOTS S,1cpmqSIGMOID S,1ulmqSIGMOID S,+18,0nwmqcpC,3F,3Q",
   "0mecpmqrtiuH,1ulmqrtiuH,1EPIGRAPHICmqtyI,0nwmqcpHzevf,2ulmrOE,0memqulcpxuM,1EPIGRAPHICmqrtF,4P,3kpM",
   "3I LONGA,3ayM,0SYLOTI NAGRImqA,3I,2uaDVISVARA,2mqU,3E,3O,2uaHASANTA,2mqKO,3KHO,3GO,3GHO,2uaat,2mqCO",
   "3CHO,3JO,3JHO,3TTO,3TTHO,3DDO,3DDHO,3TO,3wr,3DO,3DHO,3NO,3PO,3PHO,3BO,3BHO,3MO,3RO,3LO,3RRO,3SO,3HO",
   "2yvuaA,4I,4U,4E,4OO,2POETRY MARK-1,3MARK-2,3MARK-3,3MARK-4,2uaamHASANTA,+3,0owINDICiaporh,4iu,3wuri",
   "3pouh,4ge,3wuSIXTEENTHS,2rhnk,2PLACEHOLDERnk,2RUPEEnk,2QUANTITYnk,+6,0PHAGS-PAmqKA,2lm,2GA,2on,2CA",
   "2cy,2JA,2ph,2TA,2wh,2DA,2NA,2PA,2ql,2BA,2MA,2xo,2xp,2DZA,2WA,2zx,2ZA,2ulA,2YA,2RA,2LA,2tj,2SA,2HA,2A",
   "2I,2U,2E,2O,2QA,2XA,2FA,2GGA,2EE,1vhmqWA,3YA,1mqxr,2xs,2eu,2ot,2amYA,2VOICELESStj,2ytHA",
   "2ASPIRATED FA,1vhmqRA,1SUPERFIXEDmqRA,1mqco,1udjhnk,1fsjhnk,1nktk,2fstk,+8,0SAURASHTRAuaat,2yr,1mqA",
   "2AA,2I,2II,2U,2UU,2ysR,3RR,3L,3LL,2E,2EE,2AI,2O,2OO,2AU,2KA,2lm,2GA,2ii,2on,2CA,2cy,2JA,2la,2ph,2xr",
   "2xs,2eu,2ev,2ot,2TA,2wh,2DA,2ez,2NA,2PA,2ql,2BA,2by,2MA,2YA,2RA,2LA,2VA,2tj,2uy,2SA,2HA,2mv",
   "1dvuaHAARU,1yvuaAA,3I,3II,3U,3UU,3ysR,4RR,4L,4LL,3E,3EE,3AI,3O,3OO,3AU,1uayq,2co,+8,1eq,1fseq,1fhzv",
   "2po,2ya,2wu,2hy,2hq,2uf,2tg,2gc,2oq,+6,0dqDEVANAGARIfhzv,3po,3ya,3wu,3hy,3hq,3uf,3tg,3gc,3oq,2mqA,3U",
   "3KA,3NA,3PA,3RA,3VI,2uabg,0DEVANAGARIuaSPACINGco,2coyq,2fscoyq,2coya,3wu,3bg,2PUSHPIKA,1GAPhi,1cq",
   "1HEADSTROKE,1uatw,1JAIN OM,1mqAY,1yvuaAY,0KAYAH LIfhzv,3po,3ya,3wu,3hy,3hq,3uf,3tg,3gc,3oq,2mqKA,3lm",
   "3GA,3on,3SA,3tj,3ZA,3ph,3TA,3HTA,3NA,3PA,3ql,3MA,3DA,3BA,3RA,3YA,3LA,3WA,3wh,3HA,3VA,3CA,3A,3OE,3I",
   "3OO,2yvUE,3E,3U,3EE,3O,2xaPLOPHU,3CALYA,4PLOPHU,2uaCWI,3SHYA,0REJANGmqKA,2GA,2on,2TA,2DA,2NA,2PA,2BA",
   "2MA,2CA,2JA,2ph,2SA,2RA,2LA,2YA,2WA,2HA,2MBA,2NGGA,2NDA,2NYJA,2A,1yvuaI,3U,3E,3AI,3O,3AU,3EU,3EA",
   "1dvuaNG,3N,3R,3H,1yq,+b,1tank,0jfCHOSEONG TIKEUT-MIEUM,2TIKEUT-PIEUP,2TIKEUT-SIOS,2TIKEUT-CIEUC,2rw",
   "2RIEUL-SSANGKIYEOK,2RIEUL-TIKEUT,2RIEUL-SSANGTIKEUT,2rx,2ry,2RIEUL-SSANGPIEUP,2RIEUL-KAPYEOUNPIEUP",
   "2RIEUL-SIOS,2RIEUL-CIEUC,2RIEUL-KHIEUKH,2MIEUM-KIYEOK,2MIEUM-TIKEUT,2MIEUM-SIOS,2PIEUP-SIOS-THIEUTH",
   "2PIEUP-KHIEUKH,2PIEUP-HIEUH,2SSANGSIOS-PIEUP,2IEUNG-RIEUL,2IEUNG-HIEUH,2SSANGCIEUC-HIEUH",
   "2SSANGTHIEUTH,2PHIEUPH-HIEUH,2HIEUH-SIOS,2SSANGYEORINHIEUH,+3,0JAVANESEuaPANYANGGA,2CECAK,2LAYAR",
   "2WIGNYAN,1mqA,2I KAWI,3,2II,2U,2PA CEREK,2onLELET,4RASWADI,2E,2AI,2O,2KA,3SASAK,3og,2GA,3og,2on,2CA",
   "3og,2JA,2phog,2JAnh,2ph,2xr,3nh,2eu,3nh,2NAog,2TA,3og,2DA,3nh,2NA,2PA,3og,2BA,3og,2MA,2YA,2RA,3AGUNG",
   "2LA,2WA,2SAog,3nh,3,2HA,1uaCECAK TELU,1yvuaTARUNG,3TOLONG,3WULU,4MELIK,3SUKU,4MENDUT,3TALING",
   "3DIRGA MURE,3PEPET,1dvuaKERET,3PENGKAL,3CAKRA,1PANGKON,1mgRERENGGAN,1rzRERENGGAN,1PADA ANDAP,2MADYA",
   "2LUHUR,2WINDU,2PANGKAT,2LINGSA,2LUNGSI,2ADEG,3ADEG,2PISELEH,1xuPADA PISELEH,+1,1PANGRANGKEP,1fhzv",
   "2po,2ya,2wu,2hy,2hq,2uf,2tg,2gc,2oq,+4,1PADA TIRTA TUMETES,2ISEN-ISEN,0MYANMARmqtoii,3cy,3la,3ot,3by",
   "1uatoSAW,1nwmqtoREDUPLICATION,1mqTAI LAINGph,4FA,4GA,4ii,4JA,4la,4eu,4ev,4ot,1TAI LAINGfhzv,4po,4ya",
   "4wu,4hy,4hq,4uf,4tg,4gc,4oq,1mqTAI LAINGmv,4DA,4ez,4BA,4by,+1,0CHAMmqA,2I,2U,2E,2AI,2O,2KA,2lm,2GA",
   "2ii,2NGUE,2on,2cy,2CHHA,2JA,2la,2NHUE,2NHA,2NHJA,2TA,2wh,2DA,2ez,2NUE,2NA,2eu,2PA,2PPA,2ql,2BA,2by",
   "2MUE,2MA,2BBA,2YA,2RA,2LA,2VA,2uy,2SA,2HA,1yvuaAA,3I,3II,3EI,3U,3OE,3O,3AI,3AU,3UE,1dvuaYA,3RA,3LA",
   "3WA,+9,1mqhjK,3G,3NG,1dvuahjNG,1mqhjCH,3T,3N,3P,3Y,3R,3L,3SS,1dvuahjM,4H,+2,1fhzv,2po,2ya,2wu,2hy",
   "2hq,2uf,2tg,2gc,2oq,+2,1rcSPIRAL,2eq,2fseq,2xneq,0MYANMARmqKHAMTI GA,3CA,3cy,3JA,3la,3ph,3xr,3xs,3eu",
   "3ev,3ez,3NA,3SA,3HA,3HHA,3FA,1nwmqKHAMTI REDUPLICATION,1mqKHAMTI XA,3ZA,3RA,1LOGOGRAM KHAMTI OAY,3QN",
   "3HM,1vtAITONgv,3po,3ya,1mqAITON RA,1uaPAOlgxa,2TAI LAINGxb,4xe,1mqSHWE PALAUNGcy,4tj,0TAI VIETmqnaKO",
   "3jnKO,3naKHO,3jnKHO,3naKHHO,3jnKHHO,3naGO,3jnGO,3naNGO,3jnNGO,3naCO,3jnCO,3naCHO,3jnCHO,3naSO,3jnSO",
   "3naNYO,3jnNYO,3naDO,3jnDO,3naTO,3jnTO,3nawr,3jnwr,3naNO,3jnNO,3naBO,3jnBO,3naPO,3jnPO,3naPHO,3jnPHO",
   "3naFO,3jnFO,3naMO,3jnMO,3naYO,3jnYO,3naRO,3jnRO,3naLO,3jnLO,3naVO,3jnVO,3naHO,3jnHO,3naO,3jnO",
   "2MAI KANG,2yvAA,3I,3UE,3U,3E,3O,2MAI KHIT,2yvIA,3UEA,3UA,3AUE,3AY,3AN,3AM,2xaMAI EK,4NUENG,4wr,4SONG",
   "+18,2vtKON,3NUENG,3SAM,3HO HOI,3KOI KOI,0MEETEI MAYEKmqE,3O,3cy,3ph,3xr,3xs,3eu,3ev,3ot,3tj,3uy",
   "2yvuaII,4UU,4AAI,4AU,4AAU,2CHEIKHAN,2AHANG KHUDAM,2ANJI,2vsREPETITIONnk,2zgREPETITIONnk,2yvuayr,2yq",
   "+a,0ETHIOPICvsTTHU,2TTHI,2TTHAA,2TTHEE,2TTHE,2TTHO,+2,2DDHU,2DDHI,2DDHAA,2DDHEE,2DDHE,2DDHO,+2,2DZU",
   "2DZI,2DZAA,2DZEE,2DZE,2DZO,+9,2CCHHA,2CCHHU,2CCHHI,2CCHHAA,2CCHHEE,2CCHHE,2CCHHO,+1,2BBA,2BBU,2BBI",
   "2BBAA,2BBEE,2BBE,2BBO,+1,0meulmqbqal,3A REVERSED-SCHWA,3BLACKLETTER E,3bqE,3EzeFLOURISH,3LENIS F",
   "3sxGzeee,3LzekpLAZY S,5fsnswy,5nssf,3Mzeee,3Nzeee,3ENGzeee,3BLACKLETTER O,5zevf,3ppOzevf,3kpOE",
   "3xuOEzevf,6jtvf,4O OPEN-O,6zevf,3STIRRUP R,1mqulcpRzerzmm,1ulmqR WITHOUT HANDLE,3fsR,3Rzeee,3fsRzeee",
   "3sxR,5zesf,3BASELINEgt,3Uzetvrzmm,4bozetvrzmm,3UI,3xuUI,3Uzemgjs,3de,4zenarzsf,6mgSERIF,3Xzenarzsf",
   "5mxmgmm,8apnarzsf,8zeSERIF,3Yzetvrzmm,0nwcizekpci,1mqulHENG,3LzekpLAZY S,5nswy,3Uzemgjs",
   "0meulmqSAKHA YAT,3ksE,3ppOE,3UO,3kpal,0iqmqulcppm,0meulmqDZfizerrjs,3TSfizerrjs,3xuRzenswy",
   "0nwmqulxuW,2mgvu,2rzvu,+4,0CHEROKEEulmqA,3E,3I,3O,3U,3V,3GA,3KA,3GE,3GI,3GO,3GU,3GV,3HA,3HE,3HI,3HO",
   "3HU,3HV,3LA,3LE,3LI,3LO,3LU,3LV,3MA,3ME,3MI,3MO,3MU,3NA,3HNA,3NAH,3NE,3NI,3NO,3NU,3NV,3QUA,3QUE,3QUI",
   "3QUO,3QUU,3QUV,3SA,3S,3SE,3SI,3SO,3SU,3SV,3DA,3TA,3DE,3TE,3DI,3TI,3DO,3DU,3DV,3DLA,3TLA,3TLE,3TLI",
   "3TLO,3TLU,3TLV,3xo,3TSE,3TSI,3TSO,3TSU,3TSV,3WA,3WE,3WI,3WO,3WU,3WV,3YA,0MEETEI MAYEKmqKOK,3SAM,3LAI",
   "3MIT,3PA,3NA,3CHIL,3TIL,3KHOU,3NGOU,3THOU,3WAI,3zk,3HUK,3UN,3I,3PHAM,3ATIYA,3GOK,3JHAM,3RAI,3BA,3JIL",
   "3DIL,3GHOU,3DHOU,3BHAM,3KOKmy,3LAImy,3MITmy,3PAmy,3NAmy,3TILmy,3NGOUmy,3Imy,2yvuaONAP,4INAP,4ANAP",
   "4YENAP,4SOUNAP,4UNAP,4CHEINAP,4NUNG,2CHEIKHEI,2LUM IYEK,2APUN IYEK,+2,2fhzv,3po,3ya,3wu,3hy,3hq,3uf",
   "3tg,3gc,3oq,+2bb6,0jfJUNGSEONG O-YEO,2O-O-I,2YO-A,2YO-AE,2YO-EO,2U-YEO,2U-I-I,2YU-AE,2YU-O,2EU-A",
   "2EU-EO,2EU-E,2EU-O,2I-YA-O,2I-YAE,2I-YEO,2I-YE,2I-O-I,2I-YO,2I-YU,2I-I,2ARAEA-A,2ARAEA-E,+4",
   "1JONGSEONG NIEUN-RIEUL,2NIEUN-CHIEUCH,2va,2SSANGTIKEUT-PIEUP,2TIKEUT-PIEUP,2TIKEUT-SIOS",
   "2TIKEUT-SIOS-KIYEOK,2TIKEUT-CIEUC,2TIKEUT-CHIEUCH,2TIKEUT-THIEUTH,2RIEUL-SSANGKIYEOK",
   "2RIEUL-KIYEOK-HIEUH,2SSANGRIEUL-KHIEUKH,2RIEUL-MIEUM-HIEUH,2RIEUL-PIEUP-TIKEUT,2RIEUL-PIEUP-PHIEUPH",
   "2RIEUL-YESIEUNG,2RIEUL-YEORINHIEUH-HIEUH,2KAPYEOUNRIEUL,2MIEUM-NIEUN,2MIEUM-SSANGNIEUN,2SSANGMIEUM",
   "2MIEUM-PIEUP-SIOS,2MIEUM-CIEUC,2PIEUP-TIKEUT,2PIEUP-RIEUL-PHIEUPH,2PIEUP-MIEUM,2SSANGPIEUP",
   "2PIEUP-SIOS-TIKEUT,2PIEUP-CIEUC,2PIEUP-CHIEUCH,2SIOS-MIEUM,2SIOS-KAPYEOUNPIEUP,2SSANGSIOS-KIYEOK",
   "2SSANGSIOS-TIKEUT,2SIOS-PANSIOS,2SIOS-CIEUC,2SIOS-CHIEUCH,2SIOS-THIEUTH,2SIOS-HIEUH,2PANSIOS-PIEUP",
   "2PANSIOS-KAPYEOUNPIEUP,2YESIEUNG-MIEUM,2YESIEUNG-HIEUH,2CIEUC-PIEUP,2CIEUC-SSANGPIEUP,2SSANGCIEUC",
   "2PHIEUPH-SIOS,2PHIEUPH-THIEUTH,+2104,0CJK COMPATIBILITY IDEOGRAPH-#,=16d,+2,3,=69,+26,0meulmrFF,3FI",
   "3FL,3FFI,3FFL,3mxS T,3ST,+c,0ARMENIANulmrMEN NOW,4ECH,4INI,3VEW NOW,3MEN XEH,+5,0HEBREWmqYODzeHIRIQ",
   "1qrJUDEO-SPANISH VARIKA,1mrYIDDISH YOD YOD PATAH,1mqALTERNATIVEbh,2WIDEah,3DALET,3HE,3ld,3LAMED",
   "3hjnr,3rp,3TAV,2ALTERNATIVEqqua,2tuzetufo,4SINfo,4enaptufo,6SINfo,2ahzePATAH,4QAMATS,4MAPIQ,2BETzeen",
   "2ilzeen,2DALETzeen,2HEzeMAPIQ,2VAVzeen,2zuzeen,+1,2TETzeen,2YODzeen,2hjldzeen,2ldzeen,2LAMEDzeen,+1",
   "2nrzeen,+1,2pgzeen,2sszeen,+1,2hjPEzeen,2PEzeen,+1,2TSADIzeen,2QOFzeen,2rpzeen,2tuzeen,2TAVzeen",
   "2VAVzeHOLAM,2BETzeRAFE,2ldzeRAFE,2PEzeRAFE,1mrahLAMED,0awmqahWASLAkthv,4hjhv,2BEEHkthv,3hjhv,3kihv",
   "3nohv,2PEHkthv,3hjhv,3kihv,3nohv,2BEHEHkthv,3hjhv,3kihv,3nohv,2TTEHEHkthv,3hjhv,3kihv,3nohv",
   "2TEHEHkthv,3hjhv,3kihv,3nohv,2TTEHkthv,3hjhv,3kihv,3nohv,2VEHkthv,3hjhv,3kihv,3nohv,2PEHEHkthv,3hjhv",
   "3kihv,3nohv,2DYEHkthv,3hjhv,3kihv,3nohv,2NYEHkthv,3hjhv,3kihv,3nohv,2TCHEHkthv,3hjhv,3kihv,3nohv",
   "2TCHEHEHkthv,3hjhv,3kihv,3nohv,2DDAHALkthv,3hjhv,2DAHALkthv,3hjhv,2DULkthv,3hjhv,2DDALkthv,3hjhv",
   "2JEHkthv,3hjhv,2RREHkthv,3hjhv,2KEHEHkthv,3hjhv,3kihv,3nohv,2GAFkthv,3hjhv,3kihv,3nohv,2GUEHkthv",
   "3hjhv,3kihv,3nohv,2NGOEHkthv,3hjhv,3kihv,3nohv,2ouGHUNNAkthv,4hjhv,2RNOONkthv,3hjhv,3kihv,3nohv",
   "2jlzezlackthv,6hjhv,3GOALkthv,4hjhv,4kihv,4nohv,3DOACHASHMEEkthv,4hjhv,4kihv,4nohv,2zlBARREEkthv",
   "4hjhv,4zeivackthv,7hjhv,1vtfoac,3bs,2yafqac,4bs,2wufqac,4bs,4qtfxac,6bs,2hyfqac,4bs,2fsynbobs",
   "2yafqyoac,5bs,2sf,2ulvvac,4bs,2WASLAac,+10,1mqNGkthv,3hjhv,3kihv,3nohv,2Ukthv,3hjhv,2OEkthv,3hjhv",
   "2YUkthv,3hjhv,2Uzeivackthv,2VEkthv,3hjhv,2KIRGHIZ OEkthv,4hjhv,3YUkthv,4hjhv,2Ekthv,3hjhv,3kihv",
   "3nohv,2UIGHUR KAZAKH KIRGHIZahnikihv,7nohv,1mrzlzeivaczeahkthv,8hjhv,7AEkthv,8hjhv,7yzkthv,8hjhv",
   "7Ukthv,8hjhv,7OEkthv,8hjhv,7YUkthv,8hjhv,7Ekthv,8hjhv,8kihv,2UIGHUR KIRGHIZzlzeivaczeahnikthv",
   "9ahnihjhv,9ahnikihv,1mqFARSIzlkthv,4hjhv,4kihv,4nohv,1mrzlzeivaczekzkthv,7itkthv,7nqkthv,7ahnikthv",
   "7zlkthv,2brzekzkthv,4itkthv,4lnkthv,4nqkthv,4ahnikthv,4zlkthv,2wdzekzkthv,4itkthv,4lnkthv,4nqkthv",
   "4ahnikthv,4zlkthv,2wjzekzkthv,4nqkthv,4ahnikthv,4zlkthv,2kzzeitkthv,4nqkthv,2itzekzkthv,4nqkthv",
   "2lnzekzkthv,4itkthv,4nqkthv,2tbzekzkthv,4itkthv,4lnkthv,4nqkthv,2spzeitkthv,4nqkthv,2emzekzkthv",
   "4itkthv,4lnkthv,4nqkthv,2vvzeitkthv,4nqkthv,2ZAHzenqkthv,2afzekzkthv,4nqkthv,2ijzekzkthv,4nqkthv",
   "2hezekzkthv,4itkthv,4lnkthv,4nqkthv,4ahnikthv,4zlkthv,2rdzeitkthv,4nqkthv,4ahnikthv,4zlkthv",
   "2ldzeahkthv,4kzkthv,4itkthv,4lnkthv,4lzkthv,4nqkthv,4ahnikthv,4zlkthv,2lzzekzkthv,4itkthv,4lnkthv",
   "4nqkthv,4ahnikthv,4zlkthv,2nqzekzkthv,4itkthv,4lnkthv,4nqkthv,4ahnikthv,4zlkthv,2ouzekzkthv,4itkthv",
   "4lnkthv,4nqkthv,4ahnikthv,4zlkthv,2jlzekzkthv,4nqkthv,4ahnikthv,4zlkthv,2zlzekzkthv,4itkthv,4lnkthv",
   "4nqkthv,4ahnikthv,4zlkthv,2THALzevoahkthv,2rozevoahkthv,2ahnizevoahkthv,2SHADDAzeDAMMATANkthv",
   "4KASRATANkthv,4hckthv,4epkthv,4likthv,4voahkthv,2zlzeivaczerohjhv,7zrhjhv,7nqhjhv,7ouhjhv,7ahnihjhv",
   "7zlhjhv,2brzerohjhv,4zrhjhv,4nqhjhv,4ouhjhv,4ahnihjhv,4zlhjhv,2wdzerohjhv,4zrhjhv,4nqhjhv,4ouhjhv",
   "4ahnihjhv,4zlhjhv,2wjzerohjhv,4zrhjhv,4nqhjhv,4ouhjhv,4ahnihjhv,4zlhjhv,2hezeahnihjhv,4zlhjhv",
   "2rdzeahnihjhv,4zlhjhv,2ldzeahhjhv,4lzhjhv,4nqhjhv,4ahnihjhv,4zlhjhv,2lzzenqhjhv,4ahnihjhv,4zlhjhv",
   "2nqzeahhjhv,4nqhjhv,2ouzerohjhv,4zrhjhv,4nqhjhv,4ouhjhv,4ahnihjhv,4zlhjhv,2ahnizevoahhjhv",
   "2zlzerohjhv,4zrhjhv,4nqhjhv,4ouhjhv,4ahnihjhv,4zlhjhv,4ivaczekzkihv,7itkihv,7lnkihv,7nqkihv,7jlkihv",
   "2brzekzkihv,4itkihv,4lnkihv,4nqkihv,4jlkihv,2wdzekzkihv,4itkihv,4lnkihv,4nqkihv,4jlkihv,2wjzenqkihv",
   "2kzzeitkihv,4nqkihv,2itzekzkihv,4nqkihv,2lnzekzkihv,4nqkihv,2tbzekzkihv,4itkihv,4lnkihv,4nqkihv",
   "2spzeitkihv,4lnkihv,4nqkihv,2emzekzkihv,4itkihv,4lnkihv,4nqkihv,2vvzeitkihv,2ZAHzenqkihv,2afzekzkihv",
   "4nqkihv,2ijzekzkihv,4nqkihv,2hezekzkihv,4itkihv,4lnkihv,4nqkihv,2rdzeitkihv,4nqkihv,2ldzekzkihv",
   "4itkihv,4lnkihv,4lzkihv,4nqkihv,2lzzekzkihv,4itkihv,4lnkihv,4nqkihv,4jlkihv,2nqzekzkihv,4itkihv",
   "4lnkihv,4nqkihv,2ouzekzkihv,4itkihv,4lnkihv,4nqkihv,4jlkihv,2jlzekzkihv,4nqkihv,4voahkihv",
   "2zlzekzkihv,4itkihv,4lnkihv,4nqkihv,4jlkihv,4ivaczenqnohv,7jlnohv,2brzenqnohv,4jlnohv,2wdzenqnohv",
   "4jlnohv,2wjzenqnohv,4jlnohv,2tbzenqnohv,4jlnohv,2trzenqnohv,4jlnohv,2ldzelznohv,4nqnohv,2lzzenqnohv",
   "2ouzenqnohv,4jlnohv,2zlzenqnohv,4jlnohv,2SHADDAzehcnohv,4epnohv,4linohv,2vvzeahnikthv,4zlkthv",
   "2afzeahnikthv,4zlkthv,2ijzeahnikthv,4zlkthv,2tbzeahnikthv,4zlkthv,2trzeahnikthv,4zlkthv",
   "2itzeahnikthv,4zlkthv,2kzzeahnikthv,4zlkthv,2lnzeahnikthv,4zlkthv,2spzeahnikthv,4zlkthv",
   "2emzeahnikthv,4zlkthv,2trzekzkthv,4itkthv,4lnkthv,4nqkthv,4rokthv,2tbzerokthv,2spzerokthv",
   "2emzerokthv,2vvzeahnihjhv,4zlhjhv,2afzeahnihjhv,4zlhjhv,2ijzeahnihjhv,4zlhjhv,2tbzeahnihjhv,4zlhjhv",
   "2trzeahnihjhv,4zlhjhv,2itzeahnihjhv,4zlhjhv,2kzzeahnihjhv,4zlhjhv,2lnzeahnihjhv,4zlhjhv",
   "2spzeahnihjhv,4zlhjhv,2emzeahnihjhv,4zlhjhv,2trzekzhjhv,4ithjhv,4lnhjhv,4nqhjhv,4rohjhv,2tbzerohjhv",
   "2spzerohjhv,2emzerohjhv,2trzekzkihv,4itkihv,4lnkihv,4nqkihv,2tbzejlkihv,2trzejlkihv,2vvzenqkihv",
   "2tbzekznohv,4itnohv,4lnnohv,2trzekznohv,4itnohv,4lnnohv,2vvzenqnohv,2ZAHzenqnohv,2ahzehdhjhv,5kthv",
   "0ORNATEmgqf,1rzqf,0awmrRAHIMAHU ALLAAH,2RADI ALLAAHU ANH,4ANHAA,4ANHUM,4ANHUMAA,4ANHUNNA",
   "2SALLALLAAHU ALAYHI WA-AALIH,2ALAYHI AS-SALAAM,2ALAYHIM AS-SALAAM,2ALAYHIMAA AS-SALAAM",
   "2ALAYHI AS-SALAATU WAS-SALAAM,2QUDDISA SIRRAH,2SALLALLAHU ALAYHI WAAALIHEE WA-SALLAM",
   "2ALAYHAA AS-SALAAM,2TABAARAKA WA-TAAALAA,2RAHIMAHUM ALLAAH,2wdzekzzenqkihv,4itzekzhjhv,7kihv,6nqkihv",
   "4lnzenqkihv,4nqzekzkihv,6itkihv,6lnkihv,2kzzenqzeithjhv,7kihv,2itzenqzezlhjhv,6ahnihjhv",
   "2tbzeitzekzkihv,4kzzeitkihv,6ahnihjhv,4nqzeithjhv,7kihv,6kzkihv,6nqhjhv,7kihv,2spzeitzeithjhv,7kihv",
   "4nqzenqhjhv,2trzeitzenqhjhv,7kihv,4kzzezlhjhv,4nqzelnhjhv,7kihv,6nqhjhv,7kihv,2emzeitzeahnihjhv",
   "4lnzenqhjhv,7kihv,2vvzenqzeithjhv,7kihv,6nqkihv,6zlhjhv,2afzekzzenqhjhv,4nqzenqhjhv,7kihv,6ahnihjhv",
   "2ijzenqzenqhjhv,6zlhjhv,6ahnihjhv,2hezelnzenqhjhv,7kihv,2rdzenqzeithjhv,6nqhjhv,2lzzeitzenqhjhv",
   "6zlhjhv,6ahnihjhv,4kzzekzkihv,7hjhv,4lnzenqhjhv,7kihv,4nqzeithjhv,7kihv,2nqzeitzekzkihv,6nqkihv",
   "6zlhjhv,4kzzeitkihv,6nqkihv,4lnzekzkihv,6nqkihv,+2,4kzzelnkihv,2jlzenqzekzkihv,6nqkihv",
   "2ouzeitzenqkihv,6ahnihjhv,4kzzenqhjhv,7kihv,6ahnihjhv,4nqzezlhjhv,6ahnihjhv,2zlzenqzenqhjhv,7kihv",
   "2brzelnzezlhjhv,2wdzekzzezlhjhv,6ahnihjhv,4lnzezlhjhv,6ahnihjhv,4nqzezlhjhv,6ahnihjhv",
   "2kzzenqzezlhjhv,4itzeahnihjhv,4nqzeahnihjhv,2tbzelnzeahnihjhv,2spzeitzezlhjhv,2trzeitzezlhjhv",
   "2emzeitzezlhjhv,2lzzekzzezlhjhv,4nqzezlhjhv,2zlzeitzezlhjhv,4kzzezlhjhv,4nqzezlhjhv,2nqzenqzezlhjhv",
   "2rdzenqzezlhjhv,2ouzeitzezlhjhv,2rdzenqzeitkihv,2lzzeitzenqkihv,2afzenqzezlhjhv,2ldzenqzezlhjhv",
   "2ouzekzzeitkihv,2nqzelnzezlhjhv,2lzzekzzenqkihv,2ldzenqzenqhjhv,2lzzekzzenqhjhv,2ouzekzzeithjhv",
   "2kzzeitzezlhjhv,2itzekzzezlhjhv,2nqzekzzezlhjhv,2hezenqzezlhjhv,2brzeitzezlhjhv,2ldzenqzenqkihv",
   "2afzekzzenqkihv,2spzenqzenqkihv,2tbzelnzezlhjhv,2ouzekzzezlhjhv,+7,2SALAAMUHU ALAYNAA,+20",
   "2SALLA USED AS KORANICvduakthv,2QALA USED AS KORANICvduakthv,2ALLAHkthv,2AKBARkthv,2MOHAMMADkthv",
   "2SALAMkthv,2RASOULkthv,2ALAYHEkthv,2WASALLAMkthv,2SALLAkthv,2SALLALLAHOU ALAYHE WASALLAM",
   "2JALLAJALALOUHOU,0RIALua,0awmrBISMILLAH AR-RAHMAN AR-RAHEEM,2SUBHAANAHU WA TAAALAA,2AZZA WA JALL",
   "0ymSELECTOR-1,1SELECTOR-2,1SELECTOR-3,1SELECTOR-4,1SELECTOR-5,1SELECTOR-6,1SELECTOR-7,1SELECTOR-8",
   "1SELECTOR-9,1SELECTOR-10,1SELECTOR-11,1SELECTOR-12,1SELECTOR-13,1SELECTOR-14,1SELECTOR-15",
   "1SELECTOR-16,0PRESENTATIONhvhuyndr,4kadr,5icvd,4dp,4td,4gvnk,4rknk,4mgzcmoch,4rzzcmoBRAKCET,4jtgk,+6",
   "0dqmrmgiu,2rziu,1fswymgiu,3rziu,1nemgiu,2rziu,1CONJOININGne,1mrmgiubs,2rziubs,1wymgiubs,2rziubs",
   "1nemgiubs,2rziubs,1CONJOININGnebs,1elTITLOmgiu,3rziu,0PRESENTATIONhvhuynyafoLEADER,4EMer,4ENer,4namt",
   "4WAVYnamt,4mgqf,4rzqf,4mgeich,4rzeich,4mgxitsch,4rzxitsch,4mgcbmoch,4rzcbmoch,4mgfsaqch,4rzfsaqch",
   "4mgaqch,4rzaqch,4mgdzch,4rzdzch,4mgzcdzch,4rzzcdzch,0SESAMEfo,0zcSESAMEfo,0PRESENTATIONhvhuynmguwch",
   "4rzuwch,0espy,0CENTRELINEpy,0WAVYpy,0fsWAVYpy,0esnamt,0CENTRELINEnamt,0WAVYnamt,0uldr,1kadr,1icvd,+1",
   "1td,1dp,1rknk,1gvnk,1EMer,1mgqf,1rzqf,1mgeich,1rzeich,1mgxitsch,1rzxitsch,1peua,1ao,1be,1qqua,1jy",
   "1mpua,1ipua,1gpua,+1,1rsuo,1fnua,1PERCENTua,1dsAT,+4,0awhdkthv,1TATWEELzehdac,1DAMMATANkthv",
   "1vwFRAGMENT,1KASRATANkthv,+1,1hckthv,2nohv,1epkthv,2nohv,1likthv,2nohv,1SHADDAkthv,2nohv,1SUKUNkthv",
   "2nohv,1mqivkthv,2ahzenfackthv,6hjhv,4ivackthv,6hjhv,2yzzeivackthv,6hjhv,2ahzeivbskthv,6hjhv",
   "2zlzeivackthv,6hjhv,6kihv,6nohv,2ahkthv,3hjhv,2brkthv,3hjhv,3kihv,3nohv,2wdMARBUTAkthv,4hjhv,3kthv",
   "3hjhv,3kihv,3nohv,2wjkthv,3hjhv,3kihv,3nohv,2kzkthv,3hjhv,3kihv,3nohv,2itkthv,3hjhv,3kihv,3nohv",
   "2lnkthv,3hjhv,3kihv,3nohv,2DALkthv,3hjhv,2THALkthv,3hjhv,2rokthv,3hjhv,2zrkthv,3hjhv,2tbkthv,3hjhv",
   "3kihv,3nohv,2trkthv,3hjhv,3kihv,3nohv,2spkthv,3hjhv,3kihv,3nohv,2emkthv,3hjhv,3kihv,3nohv,2vvkthv",
   "3hjhv,3kihv,3nohv,2ZAHkthv,3hjhv,3kihv,3nohv,2afkthv,3hjhv,3kihv,3nohv,2ijkthv,3hjhv,3kihv,3nohv",
   "2hekthv,3hjhv,3kihv,3nohv,2rdkthv,3hjhv,3kihv,3nohv,2ldkthv,3hjhv,3kihv,3nohv,2lzkthv,3hjhv,3kihv",
   "3nohv,2nqkthv,3hjhv,3kihv,3nohv,2oukthv,3hjhv,3kihv,3nohv,2jlkthv,3hjhv,3kihv,3nohv,2yzkthv,3hjhv",
   "2ahnikthv,4hjhv,2zlkthv,3hjhv,3kihv,3nohv,1mrlzzeahzenfackthv,8hjhv,6ivackthv,8hjhv,7bskthv,8hjhv",
   "5kthv,5hjhv,+2,0zvWIDTH NO-BREAKur,+1,0FULLWIDTHgvnk,1rlnk,1peua,1fnua,1PERCENTua,1ao,1au,1mgqf",
   "1rzqf,1be,1qqua,1dr,1jy,1icvd,1uo,1fhzv,2po,2ya,2wu,2hy,2hq,2uf,2tg,2gc,2oq,1dp,1td,1mpua,1gpua",
   "1ipua,1rknk,1dsAT,1mecpmqA,4B,4C,4D,4E,4F,4G,4H,4I,4J,4K,4L,4M,4N,4O,4P,4Q,4R,4S,4T,4U,4V,4W,4X,4Y",
   "4Z,1mguwch,1rsuo,1rzuwch,1dkad,1namt,1ioad,1meulmqA,4B,4C,4D,4E,4F,4G,4H,4I,4J,4K,4L,4M,4N,4O,4P,4Q",
   "4R,4S,4T,4U,4V,4W,4X,4Y,4Z,1mgeich,1ynmt,1rzeich,1wy,1mgzcqf,1rzzcqf,0HALFWIDTHkaicvd,1mgdzch",
   "1rzdzch,1kadr,1ljnsfo,2mqWO,3ulA,4I,4U,4E,4O,4YA,4YU,4YO,4TU,1lkPROLONGEDupnk,1ljmqA,3I,3U,3E,3O,3KA",
   "3KI,3KU,3KE,3KO,3SA,3SI,3SU,3SE,3SO,3TA,3TI,3TU,3TE,3TO,3NA,3NI,3NU,3NE,3NO,3HA,3HI,3HU,3HE,3HO,3MA",
   "3MI,3MU,3ME,3MO,3YA,3YU,3YO,3RA,3RI,3RU,3RE,3RO,3WA,3N,2ytupnk,2SEMI-VOICEDupnk,1jfhi,2mqlr,3uz",
   "3KIYEOK-SIOS,3NIEUN,3oo,3op,3wx,3va,3RIEUL,3rw,3rx,3ry,3RIEUL-SIOS,3RIEUL-THIEUTH,3RIEUL-PHIEUPH,3rv",
   "3MIEUM,3PIEUP,3SSANGPIEUP,3PIEUP-SIOS,3SIOS,3SSANGSIOS,3kb,3dg,3SSANGCIEUC,3df,3lo,3wm,3qn,3HIEUH,+3",
   "3A,3AE,3YA,3YAE,3EO,3E,+2,3YEO,3YE,3O,3WA,3WAE,3OE,+2,3YO,3U,3WEO,3WE,3WI,3YU,+2,3EU,3YI,3I,+3",
   "0FULLWIDTH CENTua,1POUNDua,1oxua,1ne,1BROKENbo,1YENua,1WONua,+1,0HALFWIDTH FORMSmsyn,1mlba,1yjba",
   "1seba,1fxba,1cbuw,1zcdh,+a,0INTERLINEAR ANNOTATION ANCHOR,2tf,2TERMINATOR,0OBJECT REPLACEMENTcz",
   "0REPLACEMENTcz"]

end SdkGen.Text.Table
