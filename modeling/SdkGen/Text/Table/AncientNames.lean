/-!
# Names of characters of ancient scripts

The names of the characters from 10000 up to 1CFFF, which are mostly of ancient scripts. The rows are read
by `CharacterName.find?`.
-/

namespace SdkGen.Text.Table

/-- The names of the characters from 10000 up to 1CFFF, which are mostly of ancient scripts. -/
def ancientNames : List String :=
  ["0LINEAR BvsB008 A,3B038 E,3B028 I,3B061 O,3B010 U,3B001 DA,3B045 DE,3B007 DI,3B014 DO,3B051 DU",
   "3B057 JA,3B046 JE,+1,3B036 JO,3B065 JU,3B077 KA,3B044 KE,3B067 KI,3B070 KO,3B081 KU,3B080 MA",
   "3B013 ME,3B073 MI,3B015 MO,3B023 MU,3B006 NA,3B024 NE,3B030 NI,3B052 NO,3B055 NU,3B003 PA,3B072 PE",
   "3B039 PI,3B011 PO,3B050 PU,3B016 QA,3B078 QE,3B021 QI,3B032 QO,+1,3B060 RA,3B027 RE,3B053 RI",
   "3B002 RO,3B026 RU,3B031 SA,3B009 SE,3B041 SI,3B012 SO,3B058 SU,3B059 TA,3B004 TE,3B037 TI,3B005 TO",
   "3B069 TU,3B054 WA,3B075 WE,3B040 WI,3B042 WO,+1,3B017 ZA,3B074 ZE,+1,3B020 ZO,3B025 A2,3B043 A3",
   "3B085 AU,3B071 DWE,3B090 DWO,3B048 NWA,3B029 PU2,3B062 PTE,3B076 RA2,3B033 RA3,3B068 RO2,3B066 TA2",
   "3B087 TWE,3B091ya,+2,2vtB018,3B019,3B022,3B034,3B047,3B049,3B056,3B063,3B064,3B079,3B082,3B083,3B086",
   "3B089,+22,2IDEOGRAM B100nj,3B102 WOMAN,3B104 DEER,3B105 EQUID,3B105F MARE,3B105M STALLION,3B106F EWE",
   "3B106M RAM,3B107F SHE-GOAT,3B107M HE-GOAT,3B108F SOW,3B108M BOAR,3B109F COW,3B109M BULL,3B120 WHEAT",
   "3B121 BARLEY,3B122 OLIVE,3B123 SPICE,3B125 CYPERUS,2nxB127 KAPO,3B128 KANAKO,2IDEOGRAM B130 OIL",
   "3B131 WINE,3B132,2nxB133 AREPA,3B135 MERI,2IDEOGRAM B140 BRONZE,3B141 GOLD,3B142,3B145 WOOL,3B146",
   "3B150,3B151ju,3B152,3B153,3B154,2nxB156 TURO2,2IDEOGRAM B157,3B158,3B159 CLOTH,3B160,3B161",
   "3B162 GARMENT,3B163 ARMOUR,3B164,3B165,3B166,3B167,3B168,3B169,3B170,3B171,3B172,3B173 MONTH,3B174",
   "3B176 TREE,3B177,3B178,3B179,3B180,3B181,3B182,3B183,3B184,3B185,3B189,3B190,3B191 HELMET",
   "3B220 FOOTSTOOL,3B225 BATHTUB,3B230 SPEAR,3B231ba,3B232,3B233 SWORD,3B234,3B236",
   "3B240 WHEELED CHARIOT,3B241 CHARIOT,3B242 CHARIOT FRAME,3B243 WHEEL,3B245,3B246,2nxB247 DIPTE",
   "2IDEOGRAM B248,3B249,3B251,3B252,3B253,3B254 DART,3B255,3B256,3B257,3B258,3B259,3VESSEL B155,4B200",
   "4B201,4B202,4B203,4B204,4B205,4B206,4B207,4B208,4B209,4B210,4B211,4B212,4B213,4B214,4B215,4B216",
   "4B217,4B218,4B219,4B221,4B222,4B226,4B227,4B228,4B229,4B250,4B305,+5,0AEGEANzgtfmt,3fo,1dcnk,+4",
   "1pepo,2ya,2wu,2hy,2hq,2uf,2tg,2gc,2oq,2wf,2xy,2wq,2hw,2hg,2ui,2ti,2gg,2os,2pojw,2yajw,2wujw,2hyjw",
   "2hqjw,2ufjw,2tgjw,2gcjw,2oqjw,2pows,2yaws,2wuws,2hyws,2hqws,2ufws,2tgws,2gcws,2oqws,2wfws,2xyws",
   "2wqws,2hwws,2hgws,2uiws,2tiws,2ggws,2osws,+3,1WEIGHT BASE UNIT,2hovm,2szvm,2wnvm,2FOURTHvm",
   "1DRYnnhovm,1LIQUIDnnhovm,1nnszvm,2wnvm,0iqACROPHONIC ATTICporh,4iu,4DRACHMA,3hq,3hg,3hqjw,4ws,3hgws",
   "3hqvy,3wfvy,3hgvy,3pojwvy,3hqjwvy,3powsvy,3hqwsvy,4vc,3wfvc,3hgvc,3pojwvc,3hqjwvc,3powsvc,3wfwsvc",
   "3hgwsvc,3wfMNAS,2HERAEUMpoPLETHRON,2wkpo,2HERMIONIANpo,2EPIDAUREANya,2wkya,2CYRENAICyaDRACHMAS",
   "2EPIDAUREANyaDRACHMAS,2TROEZENIANhq,3wf,4amhv,2HERMIONIANwf,2MESSENIANwf,2wkwf,3wq,2TROEZENIANhg",
   "4amhv,2HERMIONIANhg,2wkhg,3pojw,3wujw,2EPIDAUREANhqjw,2TROEZENIANhqjw,2wkhqjw,2CARYSTIANhqjw",
   "2NAXIANhqjw,2wkpows,3hqws,2DELPHIChqMNAS,2STRATIANhgMNAS,1poiuua,4amhv,1yawoua,1wuriua,1YEARua",
   "1TALENTua,1DRACHMAua,1OBOLua,1yaOBOLSua,1wuOBOLSua,1hyOBOLSua,1hqOBOLSua,1METRETESua,1KYATHOS BASEua",
   "1LITRAua,1OUNKIAua,1XESTESua,1ARTABEua,1AROURAua,1GRAMMAua,1TRYBLION BASEua,1zvua,1porhua",
   "1SINUSOIDua,1INDICTIONua,0NOMISMAua,+1,0ROMAN SEXTANSua,1UNCIAua,1SEMUNCIAua,1SEXTULAua",
   "1DIMIDIA SEXTULAua,1SILIQUAua,1DENARIUSua,1QUINARIUSua,1SESTERTIUSua,1DUPONDIUSua,1ASua,1CENTURIALua",
   "0ASCIAvt,+3,0iqvtvzru,+2f,0PHAISTOS DISCuaPEDESTRIAN,3PLUMEDjh,3TATTOOEDjh,3CAPTIVE,3CHILD,3WOMAN",
   "3HELMET,3GAUNTLET,3TIARA,3ba,3BOW,3SHIELD,3CLUB,3MANACLES,3MATTOCK,3SAW,3LID,3BOOMERANG",
   "3CARPENTRY PLANE,3DOLIUM,3COMB,3SLING,3COLUMN,3BEEHIVE,3SHIP,3ju,3HIDE,3BULLSmm,3CAT,3RAM,3EAGLE",
   "3DOVE,3TUNNY,3BEE,3PLANE TREE,3VINE,3PAPYRUS,3ROSETTE,3LILY,3OXbi,3FLUTE,3GRATER,3STRAINER,3ulAXE",
   "3WAVY BAND,3dqpivf,+82,0LYCIANmqA,2E,2B,2BH,2G,2D,2I,2W,2Z,2TH,2J,2K,2Q,2L,2M,2N,2MM,2NN,2U,2P,2KK",
   "2R,2S,2T,2TT,2AN,2EN,2H,2X,+3,0CARIANmqA,2P2,2D,2L,2UUU,2R,2LD,2A2,2Q,2B,2M,2O,2D2,2T,2SH,2SH2,2S",
   "2C-18,2U,2NN,2X,2N,2TT2,2P,2SS,2I,2E,2UUUU,2K,2K2,2ND,2UU,2G,2G2,2ST,2ST2,2NG,2II,2C-39,2TT,2UUU2",
   "2RR,2MB,2MB2,2MB3,2MB4,2LD2,2E2,2UUU3,+f,0dyEPACTwtnk,2fhpo,3ya,3wu,3hy,3hq,3uf,3tg,3gc,3oq,2pewf",
   "3xy,3wq,3hw,3hg,3ui,3ti,3gg,3os,3pojw,3yajw,3wujw,3hyjw,3hqjw,3ufjw,3tgjw,3gcjw,3oqjw,+4,0plkumqA",
   "3BE,3KE,3DE,3E,3VE,3ZE,3HE,3wi,3I,3KA,3EL,3EM,3EN,3gt,3O,3PE,3tq,3KU,3ER,3ES,3TE,3U,3EKS,3PHE,3KHE",
   "3EF,3ERS,3db,3II,3UU,3ESS,2pfpo,3hq,3wf,3hg,+9,2mqYE,3NORTHERN TSE,3SOUTHERN TSE,0GOTHICmqAHSA",
   "2BAIRKAN,2GIBA,2DAGS,2AIHVUS,2QAIRTHRA,2IUJA,2HAGL,2THIUTH,2EIS,2KUSMA,2LAGUS,2MANNA,2NAUTHS,2JER",
   "2URUS,2PAIRTHRA,2os,2RAIDA,2SAUIL,2TEIWS,2WINJA,2FAIHU,2IGGWS,2HWAIR,2OTHAL,2oqjw,+5,0plPERMICmqAN",
   "3BUR,3GAI,3DOI,3E,3ZHOI,3DZHOI,3ZATA,3DZITA,3I,3KOKE,3LEI,3MENOE,3NENOE,3VOOI,3PEEI,3REI,3SII,3TAI",
   "3U,3CHERY,3SHOOI,3SHCHOOI,3YRY,3zn,3O,3OO,3EF,3HA,3TSIU,3VER,3YER,3YERI,3YAT,3IE,3YU,3YA,3IA",
   "0dqplPERMICmqAN,4DOI,4ZATA,4NENOE,4SII,+5,0UGARITICmqALPA,2bv,2GAMLA,2lm,2ex,2HO,2WO,2zw,2HOTA,2TET",
   "2YOD,2ld,2tu,2ma,2nr,2DHAL,2pg,2ZU,2SAMKA,2af,2PU,2SADE,2QOPA,2RASHA,2THANNA,2ij,2TO,2I,2U,2SSU,+1",
   "1zgfk,0plPERSIANuaA,3I,3U,3KA,3KU,3GA,3GU,3XA,3CA,3JA,3JI,3TA,3TU,3DA,3DI,3DU,3wh,3PA,3BA,3FA,3NA",
   "3NU,3MA,3MI,3MU,3YA,3VA,3VI,3RA,3RU,3LA,3SA,3ZA,3tj,3uy,3HA,+4,3AURAMAZDAA,3AURAMAZDAA-2",
   "3AURAMAZDAAHA,3XSHAAYATHIYA,3DAHYAAUSH,3DAHYAAUSH-2,3BAGA,3BUUMISH,2zgfk,2pepo,3ya,3wf,3xy,3jw,+2a",
   "0DESERETcpmqmxI,4E,4A,4AH,4O,4OO,3tvI,4E,4A,4AH,4O,4OO,3AY,3OW,3WU,3YEE,3H,3PEE,3BEE,3TEE,3DEE,3CHEE",
   "3JEE,3KAY,3GAY,3EF,3VEE,3ETH,3THEE,3ES,3ZEE,3gt,3ZHEE,3ER,3EL,3EM,3EN,3ENG,3OI,3EW,1ulmqmxI,4E,4A",
   "4AH,4O,4OO,3tvI,4E,4A,4AH,4O,4OO,3AY,3OW,3WU,3YEE,3H,3PEE,3BEE,3TEE,3DEE,3CHEE,3JEE,3KAY,3GAY,3EF",
   "3VEE,3ETH,3THEE,3ES,3ZEE,3gt,3ZHEE,3ER,3EL,3EM,3EN,3ENG,3OI,3EW,0SHAVIANmqPEEP,2TOT,2KICK,2FEE",
   "2THIGH,2SO,2SURE,2CHURCH,2YEA,2HUNG,2BIB,2DEAD,2GAG,2VOW,2THEY,2ZOO,2nn,2JUDGE,2WOE,2HA-HA,2LOLL",
   "2MIME,2IF,2EGG,2bd,2ADO,2ON,2WOOL,2OUT,2AH,2ROAR,2pg,2EAT,2AGE,2ICE,2UP,2OAK,2OOZE,2OIL,2AWE,2ARE",
   "2OR,2AIR,2ERR,2ARRAY,2EAR,2IAN,2YEW,0OSMANYAmqah,2BA,2TA,2JA,2XA,2lm,2DEEL,2RA,2SA,2SHIIN,2ez,2CAYN",
   "2GA,2FA,2QAAF,2KAAF,2LAAN,2MIIN,2NUUN,2yz,2HA,2YA,2A,2E,2I,2O,2U,2AA,2EE,2OO,+2,1fhzv,2po,2ya,2wu",
   "2hy,2hq,2uf,2tg,2gc,2oq,+6,0OSAGEcpmqA,3AI,3af,3AH,3BRA,3cy,3EHCHA,3E,3EIN,3HA,3HYA,3I,3KA,3EHKA",
   "3KYA,3LA,3MA,3NA,3O,3OIN,3PA,3EHPA,3SA,3tj,3TA,3EHTA,3xo,3EHTSA,3xp,3ez,3U,3WA,3lm,3ii,3ZA,3zx,+4",
   "1ulmqA,3AI,3af,3AH,3BRA,3cy,3EHCHA,3E,3EIN,3HA,3HYA,3I,3KA,3EHKA,3KYA,3LA,3MA,3NA,3O,3OIN,3PA,3EHPA",
   "3SA,3tj,3TA,3EHTA,3xo,3EHTSA,3xp,3ez,3U,3WA,3lm,3ii,3ZA,3zx,+4,0ELBASANmqA,2BE,2CE,2db,2DE,2NDE,2DHE",
   "2EI,2E,2FE,2GE,2GJE,2HE,2I,2JE,2KE,2LE,2LLE,2ME,2NE,2NA,2NJE,2O,2PE,2QE,2RE,2RRE,2SE,2tq,2TE,2wi,2U",
   "2VE,2XE,2Y,2ZE,2zy,2ik,2GHAMMA,2KHE,+8,0CAUCASIAN ALBANIANmqALT,3BET,3GIM,3DAT,3EB,3ZARL,3EYN,3ZHIL",
   "3TAS,3cy,3YOWD,3zx,3IRB,3tj,3LAN,3INYA,3XEYN,3DYAN,3CAR,3JHOX,3KAR,3LYIT,3HEYT,3QAY,3AOR,3CHOY,3de",
   "3CYAY,3MAQ,3QAR,3NOWC,3DZYAY,3SHAK,3JAYN,3ON,3TYAY,3FAM,3DZAY,3CHAT,3PEN,3GHEYS,3RAT,3SEYK,3VEYZ",
   "3TIWR,3SHOY,3IWN,3CYAW,3CAYN,3YAYD,3PIWR,3KIW,+b,2CITATIONnk,0VITHKUQIcpmqA,3BBE,3BE,3CE,3db,3DE",
   "3DHE,3EI,3E,3FE,3GA,+1,3HA,3HHA,3I,3IJE,3JE,3KA,3LA,3mv,3ME,3NE,3NJE,3O,3PE,3QA,3RE,+1,3SE,3tq,3TE",
   "3wi,3U,3VE,3XE,+1,3Y,3ZE,+1,1ulmqA,3BBE,3BE,3CE,3db,3DE,3DHE,3EI,3E,3FE,3GA,+1,3HA,3HHA,3I,3IJE,3JE",
   "3KA,3LA,3mv,3ME,3NE,3NJE,3O,3PE,3QA,3RE,+1,3SE,3tq,3TE,3wi,3U,3VE,3XE,+1,3Y,3ZE,+43,0LINEAR AuaAB001",
   "3AB002,3AB003,3AB004,3AB005,3AB006,3AB007,3AB008,3AB009,3AB010,3AB011,3AB013,3AB016,3AB017,3AB020",
   "3AB021,3AB021F,3AB021M,3AB022,3AB022F,3AB022M,3AB023,3AB023M,3AB024,3AB026,3AB027,3AB028,3A028B",
   "3AB029,3AB030,3AB031,3AB034,3AB037,3AB038,3AB039,3AB040,3AB041,3AB044,3AB045,3AB046,3AB047,3AB048",
   "3AB049,3AB050,3AB051,3AB053,3AB054,3AB055,3AB056,3AB057,3AB058,3AB059,3AB060,3AB061,3AB065,3AB066",
   "3AB067,3AB069,3AB070,3AB073,3AB074,3AB076,3AB077,3AB078,3AB079,3AB080,3AB081,3AB082,3AB085,3AB086",
   "3AB087,3A100-102,3AB118,3AB120,3A120B,3AB122,3AB123,3AB131A,3AB131B,3A131C,3AB164,3AB171,3AB180",
   "3AB188,3AB191,3A301,3A302,3A303,3A304,3A305,3A306,3A307,3A308,3A309A,3A309B,3A309C,3A310,3A311,3A312",
   "3A313A,3A313B,3A313C,3A314,3A315,3A316,3A317,3A318,3A319,3A320,3A321,3A322,3A323,3A324,3A325,3A326",
   "3A327,3A328,3A329,3A330,3A331,3A332,3A333,3A334,3A335,3A336,3A337,3A338,3A339,3A340,3A341,3A342",
   "3A343,3A344,3A345,3A346,3A347,3A348,3A349,3A350,3A351,3A352,3A353,3A354,3A355,3A356,3A357,3A358",
   "3A359,3A360,3A361,3A362,3A363,3A364,3A365,3A366,3A367,3A368,3A369,3A370,3A371,3A400-VAS,3A401-VAS",
   "3A402-VAS,3A403-VAS,3A404-VAS,3A405-VAS,3A406-VAS,3A407-VAS,3A408-VAS,3A409-VAS,3A410-VAS,3A411-VAS",
   "3A412-VAS,3A413-VAS,3A414-VAS,3A415-VAS,3A416-VAS,3A417-VAS,3A418-VAS,3A501,3A502,3A503,3A504,3A505",
   "3A506,3A508,3A509,3A510,3A511,3A512,3A513,3A515,3A516,3A520,3A521,3A523,3A524,3A525,3A526,3A527",
   "3A528,3A529,3A530,3A531,3A532,3A534,3A535,3A536,3A537,3A538,3A539,3A540,3A541,3A542,3A545,3A547",
   "3A548,3A549,3A550,3A551,3A552,3A553,3A554,3A555,3A556,3A557,3A559,3A563,3A564,3A565,3A566,3A568",
   "3A569,3A570,3A571,3A572,3A573,3A574,3A575,3A576,3A577,3A578,3A579,3A580,3A581,3A582,3A583,3A584",
   "3A585,3A586,3A587,3A588,3A589,3A591,3A592,3A594,3A595,3A596,3A598,3A600,3A601,3A602,3A603,3A604",
   "3A606,3A608,3A609,3A610,3A611,3A612,3A613,3A614,3A615,3A616,3A617,3A618,3A619,3A620,3A621,3A622",
   "3A623,3A624,3A626,3A627,3A628,3A629,3A634,3A637,3A638,3A640,3A642,3A643,3A644,3A645,3A646,3A648",
   "3A649,3A651,3A652,3A653,3A654,3A655,3A656,3A657,3A658,3A659,3A660,3A661,3A662,3A663,3A664,+9,3A701 A",
   "3A702 B,3A703 D,3A704 E,3A705 F,3A706 H,3A707 J,3A708 K,3A709 L,3A709-2 L2,3A709-3 L3,3A709-4 L4",
   "3A709-6 L6,3A710 W,3A711 X,3A712 Y,3A713pm,3A714 ABB,3A715 BB,3A717 DD,3A726 EYYY,3A732 JE,+a,3A800",
   "3A801,3A802,3A803,3A804,3A805,3A806,3A807,+18,0nwmqulcpAA,2voxmdp,3iuxmdp,2ulAE,3cpB,3Bzejs,+1,3DZfi",
   "5zerrjs,6eh,3DEZHfi,3Dzevw,5js,6apvw,3rtE,3dnrtppE,3FENGfi,3RAMSju,3cpG,3Gzejs,3cpGzejs,3Hzevf,3cpH",
   "3HENGzejs,3fpJzevfapjs,3LSfi,3LZfi,3LzeBELT,3cpLzeBELT,3LzerrjsapBELT,3LEZH,4zerrjs,3xuY,5zeBELT",
   "3Ozevf,3cpOE,3dnpm,3Q,3xuRzemxmm,8aprrjs,3Rzevw,5hp,3cpR,3TCfizeeh,3TSfi,5zerrjs,3TESHfi,3Tzerrjs",
   "3Vzerzjs,+1,3cpY,2invdzevf,2rtinvdzevf,2BILABIALdl,2DENTALdl,2LATERALdl,2ALVEOLARdl,2rrdlzerrjs",
   "2ulSzeeh,+45,0CYPRIOTvsA,2E,2I,2O,2U,2JA,+2,2JO,+1,2KA,2KE,2KI,2KO,2KU,2LA,2LE,2LI,2LO,2LU,2MA,2ME",
   "2MI,2MO,2MU,2NA,2NE,2NI,2NO,2NU,2PA,2PE,2PI,2PO,2PU,2RA,2RE,2RI,2RO,2RU,2SA,2SE,2SI,2SO,2SU,2TA,2TE",
   "2TI,2TO,2TU,2WA,2WE,2WI,2WO,+1,2XA,2XE,+3,2ZA,+2,2ZO,0IMPERIAL ARAMAICmqai,3bw,3il,3eo,3HE,3yz,3zu",
   "3jm,3TETH,3zo,3le,3mb,3nr,3pg,3ss,3bh,3PE,3sq,3QOPH,3rp,3tu,3wa,+1,2taua,2pepo,3ya,3wu,3wf,3xy,3pojw",
   "4ws,3wfws,0PALMYRENEmqai,2bw,2il,2eo,2HE,2yz,2zu,2jm,2TETH,2zo,2le,2mb,2nr,2hjpg,2pg,2ss,2bh,2PE,2sq",
   "2QOPH,2rp,2tu,2wa,1miFLEURON,1sbFLEURON,1pepo,2ya,2wu,2hy,2hq,2wf,2xy,0NABATAEANmqhjai,2ai,2hjbw,2bw",
   "2il,2eo,2hjHE,2HE,2yz,2zu,2jm,2TETH,2hjzo,2zo,2hjle,2le,2hjmb,2mb,2hjnr,2nr,2hjpg,2pg,2ss,2bh,2PE",
   "2sq,2QOPH,2rp,2hjtu,2tu,2wa,+8,1pepo,2ya,2wu,2hy,1CRUCIFORMpehy,1pehq,2wf,2xy,2pojw,+30,0HATRANmqai",
   "2bw,2il,2DALETH-RESH,2HE,2yz,2ZAYN,2jm,2TETH,2zo,2le,2mb,2nr,2pg,2ss,2AYN,2PE,2sq,2QOPH,+1,2tu,2wa",
   "+5,1pepo,2hq,2wf,2xy,2pojw,0PHOENICIANmqALF,2BET,2GAML,2DELT,2HE,2WAU,2ZAI,2HET,2TET,2YOD,2ld,2LAMD",
   "2nr,2pg,2SEMK,2af,2PE,2SADE,2QOF,2ROSH,2tu,2vz,1pepo,2wf,2xy,2pojw,2ya,2wu,+3,1zgtf,0LYDIANmqA,2B,2G",
   "2D,2E,2V,2I,2Y,2K,2L,2M,2N,2O,2R,2SS,2T,2U,2F,2Q,2S,2TT,2AN,2EN,2LY,2NN,2C,+5,1xmnk,+40",
   "0MEROITIC HIEROGLYPHICmqA,3E,3I,3O,3YA,3WA,3BA,3BA-2,3PA,3MA,3NA,3NA-2,3NE,3NE-2,3RA,3RA-2,3LA,3lm",
   "3HHA,3SA,3SA-2,3SE,3KA,3QA,3TA,3TA-2,3TE,3TE-2,3TO,3DA,2vtVIDJ,3VIDJ-2,1CURSIVEmqA,3E,3I,3O,3YA,3WA",
   "3BA,3PA,3MA,3NA,3NE,3RA,3LA,3lm,3HHA,3SA,3aySA,3SE,3KA,3QA,3TA,3TE,3TO,3DA,+4,2iagjxw,3poiu",
   "2LOGOGRAM RMT,3IMN,2pepo,3ya,3wu,3hy,3hq,3uf,3tg,3gc,3oq,3wf,3xy,3wq,3hw,3hg,3ui,3ti,+2,3pojw,3yajw",
   "3wujw,3hyjw,3hqjw,3ufjw,3tgjw,3gcjw,3oqjw,3pows,3yaws,3wuws,3hyws,3hqws,3ufws,3tgws,3gcws,3oqws",
   "3wfws,3xyws,3wqws,3hwws,3hgws,3uiws,3tiws,3ggws,3osws,3pojwws,3yajwws,3wujwws,3hyjwws,3hqjwws",
   "3ufjwws,3tgjwws,3gcjwws,3oqjwws,2iapoTWELFTH,3yaxw,3wuxw,3hyxw,3hqxw,3ufxw,3tgxw,3gcxw,3oqxw,3wfxw",
   "0KHAROSHTHImqA,1yvuaI,3U,3ysR,+1,3E,3O,+5,2mnnk,1uafssfbs,2at,2yr,1mqKA,2lm,2GA,2ii,+1,2CA,2cy,2JA",
   "+1,2ph,2xr,2xs,2eu,2ev,2ot,2TA,2wh,2DA,2ez,2NA,2PA,2ql,2BA,2by,2MA,2YA,2RA,2LA,2VA,2tj,2uy,2SA,2ZA",
   "2HA,2KKA,2TTTHA,2TTTA,2VHA,+2,1uaboac,2CAUDA,2fobs,+4,1yq,1fhpo,2ya,2wu,2hy,1pewf,2xy,2pojw,3ws",
   "1iapoiu,+7,1rcfo,2uldh,2dh,2eabo,2MANGALAM,2LOTUS,2eq,2fseq,2LINES,+7,0pluqARABIANmqHE,4mb,4jm,4nr",
   "4QOPH,4yz,4tu,4rp,4bw,4wa,4SAT,4le,4pg,4KHETH,4sq,4ss,4FE,4ah,4AYN,4DHADHE,4il,4eo,4GHAYN,4TETH",
   "4ZAYN,4DHALETH,4zo,4THAW,4THETH,3pepo,4hg,3NUMERICkg,1owARABIANmqjl,4lz,4it,4nq,4rd,4yz,4ES-2,4ro",
   "4br,4wd,4ES-1,4ld,4ou,4ln,4sp,4ES-3,4he,4ah,4af,4em,4GEEM,4DAL,4ij,4vv,4zr,4THAL,4zl,4wj,4ZAH,3pepo",
   "4wf,4xy,+20,0MANICHAEANmqai,2bw,2BHETH,2il,2GHIMEL,2eo,2HE,2yz,1uaUD,1mqzu,2ZHAYIN,2JAYIN,2JHAYIN",
   "2jm,2TETH,2zo,2le,2XAPH,2KHAPH,2mb,2DHAMEDH,2THAMEDH,2nr,2pg,2ss,2bh,2AAYIN,2PE,2FE,2sq,2QOPH,2XOPH",
   "2QHOPH,2rp,2tu,2SSHIN,2wa,1aankac,3bs,+4,1pepo,2hq,2wf,2xy,2pojw,1rcvb,2FLEURON,2fsfozffo,2fozffo,3",
   "2yafq,2mthi,+9,0AVESTANmqA,2AA,2AO,2AAO,2AN,2AAN,2AE,2AEE,2E,2EE,2O,2OO,2I,2II,2U,2UU,2KE,2XE,2XYE",
   "2XVE,2GE,2GGE,2ik,2CE,2JE,2TE,2wi,2DE,2DHE,2TTE,2PE,2FE,2BE,2BHE,2NGE,2NGYE,2NGVE,2NE,2NYE,2NNE,2ME",
   "2HME,2YYE,2YE,2VE,2RE,2LE,2SE,2ZE,2tq,2zy,2SHYE,2SSHE,2HE,+3,1aank,0TINYyafqpvpoforc,0ulyafqpvpoforc",
   "0mcyafqpvpoforc,1pofopvyafqrc,1yaRINGSpvposfrc,1posfpvyaRINGSrc,0INSCRIPTIONAL PARTHIANmqai,3bw,3il",
   "3eo,3HE,3yz,3zu,3jm,3TETH,3zo,3le,3mb,3nr,3pg,3ss,3bh,3PE,3sq,3QOPH,3rp,3tu,3wa,+2,2pepo,3ya,3wu,3hy",
   "3wf,3xy,3pojw,4ws,1PAHLAVImqai,3bw,3il,3eo,3HE,3WAW-AYIN-RESH,3zu,3jm,3TETH,3zo,3le,3mb,3MEM-QOPH",
   "3pg,3ss,3PE,3sq,3tu,3wa,+5,2pepo,3ya,3wu,3hy,3wf,3xy,3pojw,4ws,0PSALTER PAHLAVImqai,3bw,3il,3eo,3HE",
   "3WAW-AYIN-RESH,3zu,3jm,3zo,3le,3mb,3MEM-QOPH,3pg,3ss,3PE,3sq,3tu,3wa,+7,2tank,2xutank,2hyfqzeec,5fo",
   "+c,2pepo,3ya,3wu,3hy,3wf,3xy,3pojw,+50,0plTURKICmqpsA,3zmA,4AE,3psI,3zmI,4E,3psO,4OE,3zmOE,3psAB",
   "3zmAB,3psAEB,3zmAEB,3psAG,3zmAG,3psAEG,3zmAEG,3psAD,3zmAD,3psAED,4EZ,3zmEZ,3psAY,3zmAY,3psAEY,3zmAEY",
   "3psAEK,3zmAEK,3psOEK,3zmOEK,3psAL,3zmAL,3psAEL,4ELT,4EM,4AN,4AEN,3zmAEN,3psENT,3zmENT,3psENC,3zmENC",
   "3psENY,3zmENY,4ANG,3psENG,3zmAENG,3psEP,4OP,4IC,4EC,3zmEC,3psAQ,3zmAQ,3psIQ,3zmIQ,3psOQ,3zmOQ,3psAR",
   "3zmAR,3psAER,4AS,4AES,4bd,3zmbd,3psgt,3zmgt,3psAT,3zmAT,3psAET,3zmAET,3psOT,4BASH,+37",
   "1HUNGARIANcpmqA,4AA,4EB,4AMB,4EC,4ENC,4ECS,4ED,4ap,4E,4CLOSE E,4EE,4EF,4EG,4EGY,4EH,4I,4II,4EJ,4EK",
   "4AK,4UNK,4EL,4ELY,4EM,4EN,4ENY,4O,4OO,4NIKOLSBURG OE,4RUDIMENTA OE,4OEE,4EP,4EMP,4ER,4tvER,4ES,4ESZ",
   "4ET,4ENT,4ETY,4ECH,4U,4UU,4NIKOLSBURG UE,4RUDIMENTA UE,4EV,4EZ,4EZS,4ENT-SHAPEDua,4US,+d,2ulmqA,4AA",
   "4EB,4AMB,4EC,4ENC,4ECS,4ED,4ap,4E,4CLOSE E,4EE,4EF,4EG,4EGY,4EH,4I,4II,4EJ,4EK,4AK,4UNK,4EL,4ELY,4EM",
   "4EN,4ENY,4O,4OO,4NIKOLSBURG OE,4RUDIMENTA OE,4OEE,4EP,4EMP,4ER,4tvER,4ES,4ESZ,4ET,4ENT,4ETY,4ECH,4U",
   "4UU,4NIKOLSBURG UE,4RUDIMENTA UE,4EV,4EZ,4EZS,4ENT-SHAPEDua,4US,+7,2pepo,3hq,3wf,3hg,3pojw,4ws",
   "0HANIFI ROHINGYAmqA,3BA,3PA,3TA,3xr,3JA,3CA,3HA,3lm,3FA,3DA,3eu,3RA,3sn,3ZA,3SA,3tj,3KA,3GA,3LA,3MA",
   "3NA,3WA,3KINNA WA,3YA,3KINNA YA,3on,3ph,3VA,2yvA,3I,3U,3E,3O,2nkSAKIN,3NA KHONNA,2uaHARBAHAY,3TAHALA",
   "3TANA,3TASSI,+8,2fhzv,3po,3ya,3wu,3hy,3hq,3uf,3tg,3gc,3oq,+126,0RUMIfhpo,2ya,2wu,2hy,2hq,2uf,2tg,2gc",
   "2oq,1pewf,2xy,2wq,2hw,2hg,2ui,2ti,2gg,2os,2pojw,2yajw,2wujw,2hyjw,2hqjw,2ufjw,2tgjw,2gcjw,2oqjw",
   "1iapoiu,3rh,3wn,2yawo,+1,0YEZIDImqELIF,2BE,2PE,2PHE,2wi,2SE,2CIM,2CHIM,2CHHIM,2HHA,2XA,2DAL,2ZAL,2RA",
   "2RHA,2ZA,2JA,2SIN,2tu,2sp,2em,2TA,2ZE,2EYN,2XHEYN,2FA,2VA,3amhv,2rd,2ld,2KHAF,2GAF,2lz,2MIM,2pg,2UM",
   "2yz,2OW,2EW,2HAY,2YOT,2ET,+1,1dqivnk,2nfnk,1HYPHENATIONnk,+2,1mqlzzefoac,2YOTzedkac,+4e",
   "0plSOGDIANmqai,3hjai,3bw,3hjbw,3il,3HE,3hjHE,3yz,3zu,3jm,3zo,3le,3mb,3nr,3pg,3hjpg,5zeynvw,3ss,3bh",
   "3ambh,3PE,3sq,3hjsq,5zeynvw,3RESH-AYIN-DALETH,3tu,3wa,3hjwa,5zeynvw,2pepo,3ya,3wu,3hy,3hq,3wf,3xy",
   "3wq,3pojw,2iapoiu,2mrAYIN-DALETH,+8,0SOGDIANmqai,2bw,2il,2HE,2yz,2zu,2jm,2zo,2le,2mb,2nr,2pg,2ss,2bh",
   "2PE,2sq,2RESH-AYIN,2tu,2wa,2FETH,2LESH,1ketu,1dqfobs,2yafqbs,2foac,2yafqac,2ejac,3bs,2jsac,3bs",
   "2mxjsbs,2rpbs,2vfbs,1pepo,2wf,2xy,2pojw,1rcyaynBARS,5zefq,2dhzefo,2yadjzefq,2iudhzefo,+16",
   "0plUYGHURmqai,3bw,3GIMEL-HETH,3yz,3zu,3hjjm,3zo,3le,3mb,3nr,3pg,3ss,3PE,3sq,3rp,3tu,3wa,3LESH",
   "2dqfoac,4bs,3yafqac,5bs,2rcbo,3yaBARS,4fq,3hyfq,+26,0CHORASMIANmqai,2ulai,2bw,2il,2eo,2HE,2yz",
   "2CURLEDyz,2zu,2jm,2zo,2le,2mb,2nr,2pg,2ss,2bh,2PE,2rp,2tu,2wa,1pepo,2ya,2wu,2hy,2wf,2xy,2pojw,+14",
   "0ELYMAICmqai,2bw,2il,2eo,2HE,2yz,2zu,2jm,2TETH,2zo,2le,2mb,2nr,2pg,2ss,2bh,2PE,2sq,2QOPH,2rp,2tu,2wa",
   "1mrZAYIN-YODH,+9,0BRAHMIuaco,2at,2yr,2lb,2yg,1mqA,2AA,2I,2II,2U,2UU,2ysR,3RR,3L,3LL,2E,2AI,2O,2AU",
   "2KA,2lm,2GA,2ii,2on,2CA,2cy,2JA,2la,2ph,2xr,2xs,2eu,2ev,2ot,2TA,2wh,2DA,2ez,2NA,2PA,2ql,2BA,2by,2MA",
   "2YA,2RA,2LA,2VA,2tj,2uy,2SA,2HA,2mv,2plTAMIL LLLA,4sn,4NNNA,1yvuaAA,3BHATTIPROLU AA,3I,3II,3U,3UU",
   "3ysR,4RR,4L,4LL,3E,3AI,3O,3AU,1yq,1eq,1fseq,1rcfo,2fsfo,2mt,2eabo,2LOTUS,+4,1pepo,2ya,2wu,2hy,2hq",
   "2uf,2tg,2gc,2oq,2wf,2xy,2wq,2hw,2hg,2ui,2ti,2gg,2os,2pojw,3ws,1fhzv,2po,2ya,2wu,2hy,2hq,2uf,2tg,2gc",
   "2oq,1uaplTAMILyq,1mqplTAMILtvE,5O,1yvuaplTAMILtvE,6O,1mqplTAMILmv,+9,1pelc,0KAITHIuaco,2at,2yr,1mqA",
   "2AA,2I,2II,2U,2UU,2E,2AI,2O,2AU,2KA,2lm,2GA,2ii,2on,2CA,2cy,2JA,2la,2ph,2xr,2xs,2eu,2DDDHA,2ev,2RHA",
   "2ot,2TA,2wh,2DA,2ez,2NA,2PA,2ql,2BA,2by,2MA,2YA,2RA,2LA,2VA,2tj,2uy,2SA,2HA,1yvuaAA,3I,3II,3U,3UU,3E",
   "3AI,3O,3AU,1uayq,2pd,1aaua,1ENUMERATIONua,1peua,1tank,1fstank,1eq,1fseq,1yvuaysR,+a,1peuaac,+2",
   "0SORA SOMPENGmqSAH,3vv,3BAH,3CAH,3DAH,3GAH,3MAH,3NGAH,3LAH,3NAH,3VAH,3PAH,3YAH,3RAH,3it,3KAH,3JAH",
   "3NYAH,3AH,3EEH,3IH,3UH,3OH,3EH,3MAE,+7,2fhzv,3po,3ya,3wu,3hy,3hq,3uf,3tg,3gc,3oq,+6,0CHAKMAuaco,2at",
   "2yr,1mqAA,2I,2U,2E,2KAA,2KHAA,2GAA,2GHAA,2NGAA,2CAA,2CHAA,2JAA,2JHAA,2NYAA,2TTAA,2TTHAA,2DDAA,2DDHAA",
   "2NNAA,2TAA,2THAA,2DAA,2DHAA,2NAA,2PAA,2PHAA,2BAA,2BHAA,2MAA,2YYAA,2YAA,2RAA,2LAA,2WAA,2SAA,2HAA",
   "1yvuaA,3I,3II,3U,3UU,3E,3AI,3O,3AU,3OI,1Onk,1AUnk,1yq,1MAAYYAA,+1,1fhzv,2po,2ya,2wu,2hy,2hq,2uf,2tg",
   "2gc,2oq,1tank,1eq,1fseq,1rknk,1mqLHAA,1yvuaAA,3EI,1mqVAA,+8,0MAHAJANImqA,2I,2U,2E,2O,2KA,2lm,2GA,2ii",
   "2CA,2cy,2JA,2la,2ph,2xr,2xs,2eu,2ev,2ot,2TA,2wh,2DA,2ez,2NA,2PA,2ql,2BA,2by,2MA,2RA,2LA,2VA,2SA,2HA",
   "2sn,1uapd,1aaua,1tank,1mrSHRI,+9,0SHARADAuaco,2at,2yr,1mqA,2AA,2I,2II,2U,2UU,2ysR,3RR,3L,3LL,2E,2AI",
   "2O,2AU,2KA,2lm,2GA,2ii,2on,2CA,2cy,2JA,2la,2ph,2xr,2xs,2eu,2ev,2ot,2TA,2wh,2DA,2ez,2NA,2PA,2ql,2BA",
   "2by,2MA,2YA,2RA,2LA,2mv,2VA,2tj,2uy,2SA,2HA,1yvuaAA,3I,3II,3U,3UU,3ysR,4RR,4L,4LL,3E,3AI,3O,3AU",
   "1uayq,2bg,2lb,2yg,1OM,1eq,1fseq,1aaua,1tf,1SANDHInk,1uapd,1yvnwnk,1EXTRAtvyvnk,1SUTRAnk",
   "1yvuaPRISHTHAMATRA E,1uakpco,1fhzv,2po,2ya,2wu,2hy,2hq,2uf,2tg,2gc,2oq,1EKAM,1uatw,1HEADSTROKE",
   "1CONTINUATIONua,1taMARK-1,2MARK-2,+1,0SINHALAayfhpo,3ya,3wu,3hy,3hq,3uf,3tg,3gc,3oq,2pewf,3xy,3wq",
   "3hw,3hg,3ui,3ti,3gg,3os,3pojw,4ws,+b,0KHOJKImqA,2AA,2I,2U,2E,2AI,2O,2AU,2KA,2lm,2GA,2GGA,2ii,2on,2CA",
   "2cy,2JA,2JJA,+1,2ph,2xr,2xs,2eu,2ev,2ot,2TA,2wh,2DA,2DDDA,2ez,2NA,2PA,2ql,2BA,2BBA,2by,2MA,2YA,2RA",
   "2LA,2VA,2SA,2HA,2mv,1yvuaAA,3I,3II,3U,3E,3AI,3O,3AU,1uaat,2yq,2pd,2SHADDA,1eq,1fseq,1zgtf,1tank",
   "1fstank,1aaua,1uaSUKUN,+41,0MULTANImqA,2I,2U,2E,2KA,2lm,2GA,+1,2ii,+1,2CA,2cy,2JA,2JJA,+1,2ph,2xr",
   "2xs,2eu,2DDDA,2ev,2ot,2TA,2wh,2DA,2ez,2NA,2PA,2ql,2BA,+1,2by,2MA,2YA,2RA,2LA,2VA,2SA,2HA,2sn,2RHA",
   "1tank,+6,0KHUDAWADImqA,2AA,2I,2II,2U,2UU,2E,2AI,2O,2AU,2KA,2lm,2GA,2GGA,2ii,2on,2CA,2cy,2JA,2JJA,2la",
   "2ph,2xr,2xs,2eu,2DDDA,2sn,2ev,2ot,2TA,2wh,2DA,2ez,2NA,2PA,2ql,2BA,2BBA,2by,2MA,2YA,2RA,2LA,2VA,2tj",
   "2SA,2HA,1uaat,1yvuaAA,3I,3II,3U,3UU,3E,3AI,3O,3AU,1uapd,2yq,+5,1fhzv,2po,2ya,2wu,2hy,2hq,2uf,2tg,2gc",
   "2oq,+6,0GRANTHAuadqatac,2co,2at,2yr,+1,1mqA,2AA,2I,2II,2U,2UU,2ysR,3L,+2,2EE,2AI,+2,2OO,2AU,2KA,2lm",
   "2GA,2ii,2on,2CA,2cy,2JA,2la,2ph,2xr,2xs,2eu,2ev,2ot,2TA,2wh,2DA,2ez,2NA,+1,2PA,2ql,2BA,2by,2MA,2YA",
   "2RA,+1,2LA,2mv,+1,2VA,2tj,2uy,2SA,2HA,+1,0dqBINDUbs,0GRANTHAuapd,2bg,1yvuaAA,3I,3II,3U,3UU,3ysR,4RR",
   "+2,3EE,3AI,+2,3OO,3AU,1uayq,+2,1OM,+6,1AUmnnk,+5,1uaPLUTA,1mqVEDICat,3fsat,2ysRR,3LL,1yvuaysL,4LL,+2",
   "0dqGRANTHAfhzv,3po,3ya,3wu,3hy,3hq,3uf,+3,2mqA,3KA,3NA,3VI,3PA,+8b,0NEWAmqA,2AA,2I,2II,2U,2UU,2ysR",
   "3RR,3L,3LL,2E,2AI,2O,2AU,2KA,2lm,2GA,2ii,2on,2NGHA,2CA,2cy,2JA,2la,2ph,2NYHA,2xr,2xs,2eu,2ev,2ot,2TA",
   "2wh,2DA,2ez,2NA,2NHA,2PA,2ql,2BA,2by,2MA,2MHA,2YA,2RA,2RHA,2LA,2LHA,2WA,2tj,2uy,2SA,2HA,1yvuaAA,3I",
   "3II,3U,3UU,3ysR,4RR,4L,4LL,3E,3AI,3O,3AU,1uayq,2co,2at,2yr,2pd,2bg,2hjat,1OM,1SIDDHI,1eq,1fseq,1dr",
   "1GAPhi,1aaua,1fhzv,2po,2ya,2wu,2hy,2hq,2uf,2tg,2gc,2oq,1fsdr,1PLACEHOLDERnk,+1,1INSERTIONua",
   "1SANDHInk,1mqVEDICat,1ualb,2yg,+1e,0TIRHUTA ANJI,1mqA,2AA,2I,2II,2U,2UU,2ysR,3RR,3L,3LL,2E,2AI,2O",
   "2AU,2KA,2lm,2GA,2ii,2on,2CA,2cy,2JA,2la,2ph,2xr,2xs,2eu,2ev,2ot,2TA,2wh,2DA,2ez,2NA,2PA,2ql,2BA,2by",
   "2MA,2YA,2RA,2LA,2VA,2tj,2uy,2SA,2HA,1yvuaAA,3I,3II,3U,3UU,3ysR,4RR,4L,4LL,3E,3tvE,3AI,3O,3tvO,3AU",
   "1uaco,2at,2yr,2yq,2pd,2bg,1GVANG,1aaua,1OM,+8,1fhzv,2po,2ya,2wu,2hy,2hq,2uf,2tg,2gc,2oq,+a6,0twmqA",
   "2AA,2I,2II,2U,2UU,2ysR,3RR,3L,3LL,2E,2AI,2O,2AU,2KA,2lm,2GA,2ii,2on,2CA,2cy,2JA,2la,2ph,2xr,2xs,2eu",
   "2ev,2ot,2TA,2wh,2DA,2ez,2NA,2PA,2ql,2BA,2by,2MA,2YA,2RA,2LA,2VA,2tj,2uy,2SA,2HA,1yvuaAA,3I,3II,3U",
   "3UU,3ysR,4RR,+2,3E,3AI,3O,3AU,1uaco,2at,2yr,2yq,2pd,2tw,1eq,1fseq,1tffo,2bo,1REPETITION MARK-1",
   "2MARK-2,2MARK-3,1glOF TEXTnk,1tankzeTRIDENTapU-SHAPED ORNAMENTS,6freb,4RAYSapfreb,7fseb,7xneb,3fssf",
   "5zeRAYS,3zefseb,4xneb,4rgeb,4SEPTUPLEeb,4djapRAYS,6yaENCLOSURES,6hyENCLOSURES,1mqTHREE-CIRCLEamI",
   "2TWO-CIRCLEamI,4II,2amU,1yvuaamU,4UU,+22,0MODImqA,2AA,2I,2II,2U,2UU,2ysR,3RR,3L,3LL,2E,2AI,2O,2AU",
   "2KA,2lm,2GA,2ii,2on,2CA,2cy,2JA,2la,2ph,2xr,2xs,2eu,2ev,2ot,2TA,2wh,2DA,2ez,2NA,2PA,2ql,2BA,2by,2MA",
   "2YA,2RA,2LA,2VA,2tj,2uy,2SA,2HA,2mv,1yvuaAA,3I,3II,3U,3UU,3ysR,4RR,4L,4LL,3E,3AI,3O,3AU,1uaat,2yr",
   "2yq,2ARDHACANDRA,1eq,1fseq,1aaua,1uaHUVA,+b,1fhzv,2po,2ya,2wu,2hy,2hq,2uf,2tg,2gc,2oq,+6",
   "0MONGOLIANbzzept,1sibz,1fsbzzept,1xnbzzept,1bzzefspt,1sibzzept,4fspt,1kpbz,3zefspt,1SWIRLbz,3zept",
   "4fspt,1xuSWIRLbzzefspt,+13,0TAKRImqA,2AA,2I,2II,2U,2UU,2E,2AI,2O,2AU,2KA,2lm,2GA,2ii,2on,2CA,2cy,2JA",
   "2la,2ph,2xr,2xs,2eu,2ev,2ot,2TA,2wh,2DA,2ez,2NA,2PA,2ql,2BA,2by,2MA,2YA,2RA,2LA,2VA,2tj,2SA,2HA,2sn",
   "1uaat,2yr,1yvuaAA,3I,3II,3U,3UU,3E,3AI,3O,3AU,1uayq,2pd,1mqaylm,1aaua,+6,1fhzv,2po,2ya,2wu,2hy,2hq",
   "2uf,2tg,2gc,2oq,+36,0AHOMmqKA,2lm,2on,2NA,2TA,2amTA,2PA,2ql,2BA,2MA,2JA,2cy,2wh,2RA,2LA,2SA,2ph,2HA",
   "2A,2DA,2ez,2GA,2amGA,2ii,2by,2la,2amBA,+2,1dvuanoLA,4RA,4LIGATING RA,1yvuaA,3AA,3I,3II,3U,3UU,3E,3AW",
   "3O,3AI,3AM,1uaKILLER,+4,1fhzv,2po,2ya,2wu,2hy,2hq,2uf,2tg,2gc,2oq,1pewf,2xy,1uaulta,2ta,2RULAI,1vtVI",
   "1mqCA,2xr,2xs,2eu,2ev,2ot,2mv,+b9,0DOGRAmqA,2AA,2I,2II,2U,2UU,2E,2AI,2O,2AU,2KA,2lm,2GA,2ii,2on,2CA",
   "2cy,2JA,2la,2ph,2xr,2xs,2eu,2ev,2ot,2TA,2wh,2DA,2ez,2NA,2PA,2ql,2BA,2by,2MA,2YA,2RA,2LA,2VA,2tj,2uy",
   "2SA,2HA,2sn,1yvuaAA,3I,3II,3U,3UU,3ysR,4RR,3E,3AI,3O,3AU,1uaat,2yr,2yq,2pd,1aaua,+64",
   "0WARANG CITIcpmqNGAA,4A,4WI,4YU,4YA,4YO,4II,4UU,4E,4O,4ANG,4GA,4KO,4ENY,4YUJ,4UC,4ENN,4ODD,4TTE",
   "4NUNG,4DA,4AT,4AM,4BU,4PU,4HIYO,4HOLO,4HORR,4HAR,4SSUU,4SII,4VIYO,2ulmqNGAA,4A,4WI,4YU,4YA,4YO,4II",
   "4UU,4E,4O,4ANG,4GA,4KO,4ENY,4YUJ,4UC,4ENN,4ODD,4TTE,4NUNG,4DA,4AT,4AM,4BU,4PU,4HIYO,4HOLO,4HORR,4HAR",
   "4SSUU,4SII,4VIYO,2fhzv,3po,3ya,3wu,3hy,3hq,3uf,3tg,3gc,3oq,2pewf,3xy,3wq,3hw,3hg,3ui,3ti,3gg,3os,+c",
   "2OM,0DIVES AKURUmqA,3AA,3I,3II,3U,3UU,3E,+2,3O,+2,3KA,3lm,3GA,3ii,3on,3CA,3cy,3JA,+1,3ph,3xr,+1,3eu",
   "3ev,3ot,3TA,3wh,3DA,3ez,3NA,3PA,3ql,3BA,3by,3MA,3YA,3YYA,3RA,3LA,3VA,3tj,3uy,3SA,3HA,3mv,3ZA,2yvuaAA",
   "4I,4II,4U,4UU,4E,+1,4AI,4O,+2,2uaat,3co,3HALANTA,2yq,2PREFIXED NASALua,2noYA,2kiRA,2noRA,2uapd,2fseq",
   "2GAPhi,2glOF TEXTnk,+9,2fhzv,3po,3ya,3wu,3hy,3hq,3uf,3tg,3gc,3oq,+46,0NANDINAGARImqA,2AA,2I,2II,2U",
   "2UU,2ysR,3RR,+2,2E,2AI,2O,2AU,2KA,2lm,2GA,2ii,2on,2CA,2cy,2JA,2la,2ph,2xr,2xs,2eu,2ev,2ot,2TA,2wh",
   "2DA,2ez,2NA,2PA,2ql,2BA,2by,2MA,2YA,2RA,2LA,2VA,2tj,2uy,2SA,2HA,2mv,2sn,1yvuaAA,3I,3II,3U,3UU,3ysR",
   "4RR,+2,3E,3AI,3O,3AU,1uaat,2yr,2yq,2bg,2tw,1HEADSTROKE,1yvuaPRISHTHAMATRA E,+1b,0ZANABAZARuwmqA",
   "2yvuaI,4UE,4U,4E,4OE,4O,4AI,4AU,4rtI,3mnnk,2mqKA,3lm,3GA,3ii,3on,3CA,3cy,3JA,3ph,3xr,3xs,3eu,3ev,3ot",
   "3TA,3wh,3DA,3ez,3NA,3PA,3ql,3BA,3by,3MA,3xo,3xp,3DZA,3DZHA,3zx,3ZA,3-A,3YA,3RA,3LA,3VA,3tj,3uy,3SA",
   "3HA,3KSSA,2hjdvnk,2uayq,3co,4zept,3cnzept,3at,3yr,2CLUSTER-INITIALmqRA,2CLUSTER-FINALmqYA,4RA,4LA",
   "4VA,2kijhnk,2CLOSINGjhnk,2nkxq,3tk,3fstk,3mxxq,2kiDOUBLE-LINEDjhnk,2CLOSING DOUBLE-LINEDjhnk",
   "2SUBJOINER,+8,0SOYOMBOmqA,1yvuaI,3UE,3U,3E,3O,3OE,3AI,3AU,3ysR,4L,2mnnk,1mqKA,2lm,2GA,2ii,2on,2CA",
   "2cy,2JA,2la,2ph,2xr,2xs,2eu,2ev,2ot,2TA,2wh,2DA,2ez,2NA,2PA,2ql,2BA,2by,2MA,2xo,2xp,2DZA,2zx,2ZA,2-A",
   "2YA,2RA,2LA,2VA,2tj,2uy,2SA,2HA,2KSSA,1ualb,2yg,1CLUSTER-INITIALmqRA,3LA,3tj,3SA,1hjdvuaG,4K,4NG,4D",
   "4N,4B,4M,4R,4L,4SH,4S,4-A,1uaat,2yr,1ignk,1SUBJOINER,1nkxq,2tk,2fstk,2PLUTA,1jhnkzenyapSUNapxnFLAME",
   "8FLAME,7,1TERMINAL MARK-1,2MARK-2,+d,0CANADIAN SYLLABICS NATTILIK HI,3HII,3HO,3HOO,3HA,3HAA,3SHRI",
   "3SHRII,3SHRO,3SHROO,3SHRA,3SHRAA,2SPE,2SPI,2SPO,2SPA,0PAU CIN HAUmqPA,4KA,4LA,4MA,4DA,4ZA,4VA,4on",
   "4HA,4GA,4lm,4SA,4BA,4CA,4TA,4wh,4NA,4ql,4RA,4FA,4cy,4A,4E,4I,4O,4U,4UA,4IA,4hjP,5K,5T,5M,5N,5L,5W",
   "5NG,5Y,3sgxamx,5,3SANDHIinvd,3sgxamxhj,5hj,3SANDHIinvdhj,4xamx,5,5mxhj,5hj,3MID-LEVELxa,3invdyl",
   "3MID-LEVELxamxhj,5hj,3LOW-FALLINGxamx,5,3invd,3LOW-FALLINGxamxhj,5hj,3invdhj,+107,0BHAIKSUKImqA,2AA",
   "2I,2II,2U,2UU,2ysR,3RR,3L,+1,2E,2AI,2O,2AU,2KA,2lm,2GA,2ii,2on,2CA,2cy,2JA,2la,2ph,2xr,2xs,2eu,2ev",
   "2ot,2TA,2wh,2DA,2ez,2NA,2PA,2ql,2BA,2by,2MA,2YA,2RA,2LA,2VA,2tj,2uy,2SA,2HA,1yvuaAA,3I,3II,3U,3UU",
   "3ysR,4RR,4L,+1,3E,3AI,3O,3AU,1uaco,2at,2yr,2yq,2bg,1eq,1fseq,1zgtf,1GAP FILLER-1,2FILLER-2,+a,1fhzv",
   "2po,2ya,2wu,2hy,2hq,2uf,2tg,2gc,2oq,1pepo,2ya,2wu,2hy,2hq,2uf,2tg,2gc,2oq,2wf,2xy,2wq,2hw,2hg,2ui",
   "2ti,2gg,2os,1HUNDREDS UNITnk,+3,0MARCHENjhnk,1nktk,1mqKA,2lm,2GA,2on,2CA,2cy,2JA,2ph,2TA,2wh,2DA,2NA",
   "2PA,2ql,2BA,2MA,2xo,2xp,2DZA,2WA,2zx,2ZA,2-A,2YA,2RA,2LA,2tj,2SA,2HA,2A,+2,1vhmqKA,3lm,3GA,3on,3CA",
   "3cy,3JA,3ph,3TA,3wh,3DA,3NA,3PA,3ql,3BA,3MA,3xo,3xp,3DZA,3WA,3zx,3ZA,+1,3YA,3RA,3LA,3tj,3SA,3HA,3A",
   "1yvuaAA,3I,3U,3E,3O,1uaat,2co,+49,0MASARAM GONDImqA,3AA,3I,3II,3U,3UU,3E,+1,3AI,3O,+1,3AU,3KA,3lm",
   "3GA,3ii,3on,3CA,3cy,3JA,3la,3ph,3xr,3xs,3eu,3ev,3ot,3TA,3wh,3DA,3ez,3NA,3PA,3ql,3BA,3by,3MA,3YA,3RA",
   "3LA,3VA,3tj,3uy,3SA,3HA,3mv,3KSSA,3JNYA,3TRA,2yvuaAA,4I,4II,4U,4UU,4ysR,+3,4E,+1,4AI,4O,+1,4AU,2uaat",
   "3yr,3pd,3cn,3HALANTA,2yq,2REPHA,2RA-KARA,+8,2fhzv,3po,3ya,3wu,3hy,3hq,3uf,3tg,3gc,3oq,+6",
   "0GUNJALA GONDImqA,3AA,3I,3II,3U,3UU,+1,3EE,3AI,+1,3OO,3AU,3YA,3VA,3BA,3by,3MA,3KA,3lm,3TA,3wh,3LA",
   "3GA,3ii,3DA,3ez,3NA,3CA,3cy,3xr,3xs,3mv,3JA,3la,3eu,3ev,3on,3PA,3ql,3HA,3RA,3SA,2yvuaAA,4I,4II,4U",
   "4UU,+1,4EE,4AI,+1,4OO,4AU,2uaat,3yr,2yq,2OM,+7,2fhzv,3po,3ya,3wu,3hy,3hq,3uf,3tg,3gc,3oq,+136",
   "0MAKASARmqKA,2GA,2on,2PA,2BA,2MA,2TA,2DA,2NA,2CA,2JA,2ph,2YA,2RA,2LA,2VA,2SA,2A,1ANGKA,1yvuaI,3U,3E",
   "3O,1PASSIMBANG,1glOFta,+b7,0LISUmqYHA,+f,0TAMILiapoTHREE-HUNDRED-AND-TWENTIETH",
   "3ONE-HUNDRED-AND-SIXTIETH,3EIGHTIETH,3SIXTY-FOURTH,3FORTIETH,3THIRTY-SECOND,2wuEIGHTIETHS",
   "3SIXTY-FOURTHS,2poTWENTIETH,3SIXTEENTH-1,3SIXTEENTH-2,3TENTH,3ge,2wuTWENTIETHS,3SIXTEENTHS,2poFIFTH",
   "3rh,3HALF-1,3HALF-2,2wuri,2DOWNSCALING FACTOR KIIZH,1uaNEL,2CEVITU,2AAZHAAKKU,2UZHAKKU,2MUUVUZHAKKU",
   "2KURUNI,2PATHAKKU,2MUKKURUNI,2KAACU,2PANAM,2PON,2VARAAKAN,2PAARAM,2KUZHI,2VELI,1WET CULTIVATIONua",
   "1DRY CULTIVATIONua,1LANDua,1SALT PANua,1TRADITIONAL CREDITua,2peua,1CURRENTua,1apODDua,1SPENTua",
   "1TOTALua,1IN POSSESSIONua,1STARTINGibua,1uaMUTHALIYA,2VAKAIYARAA,+d,1rcglOF TEXT,0CUNEIFORMuaA,3wzA",
   "4bl,4iewg,4HA,4kc,4LAGARis,4MUSH,4SAG,2A2,2AB,3wzASH2,4DUN3is,4GAL,4iewg,4HA,4kcis,4IMIN,4ly,4SHESH",
   "4UqqUqqU,3is,2AB2,3wzBALAG,4iewg,4MEqqEN,4SHA3,4vx,2AD,2AK,3wzERIN2,4SHITAqqim,2AL,3wzAL,4DIM2,4im",
   "4HA,4KAD3,4KI,4tq,4USH,2ALAN,2ai,2AMAR,3wztq,2AN,3pvAN,3wuwz,3qqNAGAprANqqNAGA,5ux,2ANSHE,2APIN",
   "2ARAD,3wzlx,2ARKAB,2ASAL2,2bd,3ZIDAwg,3KABAwg,3pvbdTUG2pvTUG2 TUG2pvTUG2qc,5pvbd,7efbdpvbdpvbd,2ASH2",
   "2ASHGAB,2BA,2bl,2BAG3,2BAHAR2,2BAL,3pvBAL,2BALAG,2bo,2BARA2,2BI,3wzA,4if,4kcis,2BU,3pvBU AB,5UN",
   "3efBU,2BULUG,3pvBULUG,2BUR,2BUR2,2DA,2DAG,3KISIM5wzAqqMASH,5AMAR,5BALAG,5BI,5GA,6qqMASH,5GI,5GIR2",
   "5GUD,5HA,5IR,6qqLU,5KAK,5LA,5LU,6qqMASH2,5LUM,5NE,5qcqqqc,5SI,5vx,5U2qqGIR2,5USH,2DAM,2DAR,2DARA3",
   "2DARA4,2DI,2DIB,2DIM,3wztq,2DIM2,2DIN,3lhUisfj,2fj,2DU,3pvDU,3is,3tt,2DUB,3wzESH2,2DUB2,2DUG,2DUGUD",
   "2DUH,2DUN,2DUN3,3is,4is,2DUN4,2DUR2,2E,3wzqc,3pvEpgpvpg,2E2,3wzAqqHAqqDA,4if,4MI,4SAL,4tq,4U,2EDIN",
   "2EGIR,2EL,2EN,3wzie,5wg,4ME,3efEN,3prEN,3ux,2EREN,2ERIN2,2ESH2,2EZEN,3wzA,5qqLAL,7wzLAL,4AN,4bl",
   "4DUN3is,6is,4HA,5is,4kcis,4lh,5ux,4KU3,4LA,4LALwzLAL,4LI,4LU,4U2,4UD,2GA,3is,2GA2,3wzAqqDAqqHA,6HA",
   "6kc,4AB2wgqqTAB,4AN,4bd,4ASH2qqGAL,4bl,4boqqRA,4BUR,5qqRA,4DA,4DI,4DIMwztq,4DUB,4EL,5qqLA,4EN",
   "5wziewg,4iewg,4if,4GI,4GI4,5qqA,4GIR2qqSU,4HAqqLUqqESH2,4HAL,5qqLA,4HIqqLI,4HUB2,4kcis,4ISHqqHUqqbd",
   "4KAK,4lh,4KID,5qqLAL,4KU3qqAN,4LA,4MEqqEN,4MI,4pg,5pvpg,4PA,4SAL,4SAR,4tq,5qqTUR,4SHID,4SUM,4vx,4U",
   "4UD,5qqDU,3pvGA2,2GABA,3efGABA,2GAD,3pvGADifpvif,2GAL,3GADpvGADifpvif,2GALAM,2GAM,2GAN,2ie,3wg,3pvie",
   "3efie,2if,2GAR3,2GASHAN,2GESHTIN,3wzlx,2GI,3wzE,4U,3efGI,2GI4,3pvGI4,3efGI4,2GIDIM,2GIR2,3is,2GIR3",
   "3wzAqqkc,4iewg,4kc,4LUqqkc,4PA,2GISAL,2im,3efim,3wzbl,4vx,3wg,2GU,3efGU,2GU2,3wzKAK,5wzkcis,4pg",
   "4SALqqTUG2,3is,2GUD,3wzAqqlx,4lx,3pvGUD LUGAL,2GUL,2GUM,3wztq,2GUR,2GUR7,2GURUN,2GURUSH,2HA,3wg,3is",
   "2HAL,2HI,3wzbd,4ASH2,4bl,4fj,4GAD,4KIN,4pg,4tq,4U,2HU,2HUB2,3wzAN,4HAL,4lh,4LISH,4UD,2HUL2,2I,3A,2IB",
   "2IDIM,3pvIDIM BUR,5ux,2IG,2kc,3DIB,3RI,3pvkcSHIRpvSHIR UDpvUD,3is,2IL,3wziewg,2IL2,2IM,3wzvx,3efIM",
   "3prIM,3ux,2IMIN,2IN,2IR,2ISH,2KA,3wzA,4AD,5qqKU3,4ASH2,4bl,4BALAG,4bo,4BI,4ERIN2,4ESH2,4GA,4GAL",
   "4iewg,4if,5qqSHA3qqA,4GI,4GIR2,4imqqSAR,5efim,4GU,4GUR7,4kc,4IM,4KAK,4KI,4KID,4LI,4LU,4ME,5qqDU,6GI",
   "6TE,4MI,5qqNUNUZ,4NE,4pg,4PI,4RU,4SA,4SAR,4tj,4tq,4SHID,4SHU,4SIG,4SUHUR,4TAR,4U,4U2,4UD,4UMUMwzPA",
   "4USH,4ZI,2KA2,3efKA2,2KAB,2KAD2,2KAD3,2KAD4,2KAD5,3pvKAD5,2KAK,3wzkcis,2KAL,3wzbl,3efKAL,2KAM2,2KAM4",
   "2lh,3lywzUpvlywzU,3pvlhlywzUpvlywzU,2KESH2,2KI,3wzbl,4U,4UD,2KID,2KIN,2KISAL,2KISH,2KISIM5,3pvKISIM5",
   "2KU,3pvHIwzASH2 KUpvHIwzASH2,2KU3,2KU4,3ylhv,2KU7,2KUL,3is,2KUN,2lx,3prlx,2KUSHU2,2KWU318,2LA,2ly",
   "3wzA,5qqDAqqHA,6if,6LAL,4AL,4AN,4bdZIDAwg,4bl,4BI,4DAR,4EN,4GA,4if,4GUD,5qqGUD,4HA,4HAL,4HIwzpg",
   "4kcis,4IM,5qqHA,6LU,4KI,4KIN,4KU3,4KUL,5qqHIqqA,4ly,4LISH,4LU,4LUL,4ME,5qqEN,4MUSH,4NE,4tqqqSUM",
   "4SHITAqqimqqERIN2,7wg,4SHU2,5qqSHU2,4SUM,4TAG,4vx,4TEqqAqqSUqqNA,4U,5qqA,6UqqU,4U2qqbd,4UD,4USH,3ux",
   "2LAGAR,3wztq,5qqSUM,3is,4pvLAGARistq,2LAHSHU,2LAL,3wzLAL,2lz,3wzlx,5qqRU,2LI,2LIL,2LIMMU2,2LISH,2LU",
   "3wzbl,2LU2,3wzAL,4bl,4ESH2,5wg,4iewg,4HIwzbl,4IM,4KAD2,4KAD3,5qqbd,4KI,4LAqqbd,4ly,4MEqqEN,4NE,4NU",
   "4SIqqbd,4SIK2qqBU,4TUG2,3wg,3efLU2,3prLU2,3ux,3tt,2LU3,2LUGAL,3pvLUGAL,3prLUGAL,3tt,2LUH,2LUL,2LUM",
   "3pvLUM,5ifpvif,2MA,3wzvx,3is,2MA2,2MAH,2MAR,2MASH,2MASH2,2ME,2MES,2MI,2MIN,2MU,3pvMU,2MUG,3is",
   "2MUNSUB,2MURGU2,2MUSH,3wzA,4lx,4ZA,3pvMUSH,5wzAqqNA,3efMUSH,2MUSH3,3wzA,5qqDI,4DI,3is,2NA,2NA2,2NAGA",
   "3kp,3wzSHUwg,3prNAGA,2NAGAR,2NAM NUTILLU,3,2NAM2,2NE,3wzA,4UD,3tt,2NI,3wzE,2NI2,2NIM,3wziewg",
   "4ifqqiewg,2NINDA2,3wzAN,4bd,5qqbd,4GUD,4MEqqiewg,4NE,4pg,4tq,5qqA AN,6bd,7qqbd,4U2qqbd,4USH,2NISAG",
   "2NU,2NU11,2pg,3LAGARwzif,5MASH,5SAL,6pvpgLAGARwzSAL,5USH,3wg,3pvpg,3efpg,5LAGARpvLAGAR,2NUNUZ",
   "3AB2wzASHGAB,5BI,5DUG,5GUD,5kcis,5KAD3,5LA,5NE,5SILA3,5U2,3KISIM5wzBI,6U,2PA,2PAD,2PAN,2qc,2PESH2",
   "2PI,3wzA,4AB,4BI,4BU,4E,4I,4IB,4U,4U2,3efPI,2PIRIG,3wzKAL,4UD,4ZA,3prPIRIG,2RA,2RAB,2RI,2RU,2SA",
   "2SAG NUTILLU,3,3wzA,4DU,4DUB,4HA,4KAK,4lx,4LUM,4MI,4pg,4SAL,4SHID,4TAB,4U2,4UB,4UM,4UR,4USH,3pvSAG",
   "3is,2SAL,3lywzASH2,2SANGA2,2SAR,2tj,2SHA3,3wzA,4bl,4im,4NE,4SHU2,4TUR,4U,5qqA,2SHA6,2SHAB6,2tp,2tq",
   "3HU,3pvtqGADpvGADifpvif,5TABpvTABifpvif,2SHEG9,2SHEN,2SHESH,2SHESH2,2SHESHLAM,2SHID,3wzA,4IM,2SHIM",
   "3wzA,4BAL,4BULUG,4DIN,4if,4kc,5is,4KUSHU2,4LUL,4MUG,4SAL,2SHINIG,2SHIR,3wg,3pvSHIR BURpvBUR,2SHITA",
   "2SHU,3pvkpSHU,2SHU2,2SHUBUR,2SI,3is,2SIG,2SIG4,3pvSIG4 SHU2,2SIK2,2SILA3,2SU,3pvSU,2SUD,2SUD2,2SUHUR",
   "2SUM,2SUMASH,2SUR,2SUR9,2TA,3be,3wzHI,4MI,3is,2TAB,3pvTAB NIpvNIfjpvfj,3ux,2TAG,3wzBI,4GUD,4tq,4SHU",
   "4TUG2,4UD,2vx,2TAR,2TE,3is,2TI,3wg,2TIL,2TIR,3wzvx,3pvTIR,5GADpvGADifpvif,2TU,2TUG2,2TUK,2TUM,2TUR",
   "3pvTUR ZApvZA,2U,3GUD,3U U,3pvU PApvPAifpvif,5SURpvSUR,5UrtpvUrt,2U2,2UB,2UD,3KUSHU2,3wzbl,4MI",
   "4UqqUqqU,9is,3is,3tt,4wzbl,2UDUG,2UM,3wzly,4MEqqDA,4SHA3,4U,2UMBIN,2UMUM,3wzlh,4PA,2UN,3is,2UR,3efUR",
   "3tt,2UR2,3wzAqqHA,6NA,4AL,4HA,4pg,4U2,5qqbd,6BI,2UR4,2URI,2URI3,2URU,3wzA,4ASHGAB,4bo,4DUN,4GA,4GAL",
   "4iewg,4if,4GU,4HA,4kc,4IM,4ISH,4KI,4LUM,4MIN,4PA,4tq,4SIG4,4TU,4UqqGUD,4UD,4URUDA,2URUDA,3wzU,2USH",
   "3wzA,4KU,4lx,4vx,2USHX,2USH2,2USHUMX,2UTUKI,2UZ3,3wzlh,2UZU,2ZA,3wg,3uxwzlx,2ZAG,2ZAMX,2ZE2,2ZI",
   "3pvZI,2ZI3,2ZIB,3KABAwg,2ZIG,2ZIZ2,2ZU,2ZU5,3wzA,2ZUBUR,2ZUM,2KAP ELAMITE,2ABwzpg,2AB2wzA,2AMARwzKUG",
   "2DAG KISIM5wzU2qqMASH,2DAG3,2fjqqSHU,2DUBwztq,2EZENwzGUD,4tq,2GA2wzANqqKAKqqA,4ASH2,2GE22,2GIG,2HUSH",
   "2KAwzANSHE,4ASH3,4im,4GUD,4HIwzASH2,4LUM,4PA,4SHUL,4TU,4UR2,2lywzGI,2LU2ttwzbl,3wzESH2qqLAL,4SHU",
   "2MESH,2MUSH3wzZA,2NA4,2NIN,2NIN9,2NINDA2wzBAL,4GI,2NU11siosew,2PESH2be,2PIR2,2SAGwzkcis,2TI2,2UMwzME",
   "2U U,+66,1NUMERICuayabd,3wubd,3hybd,3hqbd,3ufbd,3tgbd,3gcbd,3oqbd,3wufj,3hyfj,3hqfj,3uffj,3tgfj",
   "3gcfj,3oqfj,3hyU,3hqU,3ufU,3tgU,3gcU,3oqU,3poih,3yaih,3wuih,3hyih,3hqih,3ufih,3tgih,3gcih,3oqih",
   "3poGESHU,3yaGESHU,3wuGESHU,3hyGESHU,3hqGESHU,3yatp,3wutp,5ylhv,3hytp,3hqtp,3uftp,3tgtp,3gctp,3oqtp",
   "3poSHARU,3yaSHARU,3wuSHARU,5ylhv,3hySHARU,3hqSHARU,3tpwzGALqqfj,7MIN,3poBURU,3yaBURU,3wuBURU,5ylhv",
   "3hyBURU,3hqBURU,3wuylhvESH16,6ESH21,3hyylhvLIMMU,6LIMMU4,6LIMMU A,7B,3ufylhvASH9,3tgylhvIMIN3",
   "6IMIN A,7B,3gcylhvUSSU,6USSU3,3oqylhvILIMMU,6ILIMMU3,6ILIMMU4,6ILIMMU A,3yabdwg,3wubdwg,3hybdwg",
   "3hqbdwg,3ufbdwg,3poBAN2,3yaBAN2,3wuBAN2,3hyBAN2,5ylhv,3hqBAN2,5ylhv,3NIGIDAMIN,3NIGIDAESH,3poESHE3",
   "3yaESHE3,3pownfj,3yawofj,3hqSIXTHSfj,3pownylhvA,3yawoylhvA,3pogebd,4rhbd,3plASSYRIANpoSIXTH,6rh",
   "3porhGUR,4iuGUR,3ELAMITEpown,4yawo,4hw,4hg,3hyUylhv,3hqUylhv,3ufUylhv,3tgUylhv,3gcUylhv,3oqUylhv,+1",
   "1rcuaplASSYRIANzgfk,3yndp,3fbdp,4TRICOLON,4QUADCOLON,+b,1uaABwzpgwg,4SHU2,2ADwzESH2,2blwzfjwg",
   "2BAHAR2wzAB2,4NI,4ZA,2BUpvBUwzNA2,2DAwzvx,2DAGwzlx,2DIMwzkc,4U U U,2DIM2wzUD,2DUGwzANSHE,4bd,5ATmg",
   "4DIN,4DUN,4ERIN2,4GA,4GI,4GIR2is,4im,4HA,4HI,4kcis,4lh,4lx,4KUSHU2,5qqlh,4LAK-020,4lz,5wzlx,4LUHqqim",
   "4MASH,4MES,4MI,4NI,4PI,4tq,4SIis,2E2wzlx,4qc,2ERIN2 X,2ESH2efESH2,2EZENttwzbd,5HI,5kcis,5LA,5LAL,5ME",
   "5MES,5SU,3wzSU,2GA2wzBAHAR2,4DIMis,4DUGwzkcis,6lh,4EREN,4GA,4ifqqDI,6NE,4HAqqA,4KUSHU2qqlh,4lz,5wzlx",
   "4LUH,4MUSH,4NE,5qqE2,6GI,4SHIM,4ZIZ2,2GABAsiosew,2GESHTINwzU,2imwzimefim,2GU2wzkcis,2GUDqqimwzvx",
   "2HAwgis,2HIwzbdpvHIwzbd,2KAwzBU,4KA,4U U U,4UR,2lywzZUpvZU,2LAK-003,2LAK-021,2LAK-025,2LAK-030",
   "2LAK-050,2LAK-051,2LAK-062,2LAK-079pvLAK-079is,2LAK-080,2LAK-081pvLAK-081,2LAK-092,2LAK-130,2LAK-142",
   "2LAK-210,2LAK-219,2LAK-220,2LAK-225,2LAK-228,2LAK-238,2LAK-265,2LAK-266,2LAK-343,2LAK-347,2LAK-348",
   "2LAK-383,2LAK-384,2LAK-390,2LAK-441,2LAK-449,3wzGU,4kc,4qcqqLU3,6qcqqLU3,4U2qqBA,2LAK-450,2LAK-457",
   "2LAK-470,2LAK-483,2LAK-490,2LAK-492,2LAK-493,2LAK-495,2LAK-550,2LAK-608,2LAK-617,3wzbd,4bl,4DUN3isis",
   "4KU3,4LA,4TAR,4TE,4U2,4UD,4URUDA,2LAK-636,2LAK-648,3wzDUB,4GA,4kc,5is,4NI,4qcqqqcqqLU3,4SHESHqqKI",
   "4UD,4URUDA,2LAK-724,2LAK-749,2LU2iswzbd,3wzfj,4HAL,4qc,5qqqcqqLU3,4vx,2MIqqZA7,2MUSHpvMUSHwzGA,6KAK",
   "2NINDA2wzDIMis,4im,4GUL,4HI,4KESH2,4LAK-050,4MASH,4qcqqqc,4U,5qqU,4URUDA,2SAGiswzHA,3wzEN,4tqATmg",
   "4vx,2SHA6wg,2tqpvtq,3qqHUB2,4NAM2,4SAR,2SHU2qqDUGwzNI,4E2wzAN,2SIwzvx,2vxqqSAG,2TUMwziewg,4wufj",
   "2UR2kp,3wzUD,2URUwzDARA3,4LAK-668,4LU3,2ZA7,2ZUpvZUqqSAR,2ZU5wzwufjwg,+a4c,0CYPRO-MINOANuaCM001",
   "2CM002,2CM004,2CM005,2CM006,2CM007,2CM008,2CM009,2CM010,2CM011,2CM012,2CM012B,2CM013,2CM015,2CM017",
   "2CM019,2CM021,2CM023,2CM024,2CM025,2CM026,2CM027,2CM028,2CM029,2CM030,2CM033,2CM034,2CM035,2CM036",
   "2CM037,2CM038,2CM039,2CM040,2CM041,2CM044,2CM046,2CM047,2CM049,2CM050,2CM051,2CM052,2CM053,2CM054",
   "2CM055,2CM056,2CM058,2CM059,2CM060,2CM061,2CM062,2CM063,2CM064,2CM066,2CM067,2CM068,2CM069,2CM070",
   "2CM071,2CM072,2CM073,2CM074,2CM075,2CM075B,2CM076,2CM078,2CM079,2CM080,2CM081,2CM082,2CM083,2CM084",
   "2CM085,2CM086,2CM087,2CM088,2CM089,2CM090,2CM091,2CM092,2CM094,2CM095,2CM096,2CM097,2CM098,2CM099",
   "2CM100,2CM101,2CM102,2CM103,2CM104,2CM105,2CM107,2CM108,2CM109,2CM110,2CM112,2CM114,2CM301,2CM302,+d",
   "0EGYPTIAN HIEROGLYPH A001,2A002,2A003,2A004,2A005,2A005A,2A006,2A006A,2A006B,2A007,2A008,2A009,2A010",
   "2A011,2A012,2A013,2A014,2A014A,2A015,2A016,2A017,2A017A,2A018,2A019,2A020,2A021,2A022,2A023,2A024",
   "2A025,2A026,2A027,2A028,2A029,2A030,2A031,2A032,2A032A,2A033,2A034,2A035,2A036,2A037,2A038,2A039",
   "2A040,2A040A,2A041,2A042,2A042A,2A043,2A043A,2A044,2A045,2A045A,2A046,2A047,2A048,2A049,2A050,2A051",
   "2A052,2A053,2A054,2A055,2A056,2A057,2A058,2A059,2A060,2A061,2A062,2A063,2A064,2A065,2A066,2A067",
   "2A068,2A069,2A070,2B001,2B002,2B003,2B004,2B005,2B005A,2B006,2B007,2B008,2B009,2C001,2C002,2C002A",
   "2C002B,2C002C,2C003,2C004,2C005,2C006,2C007,2C008,2C009,2C010,2C010A,2C011,2C012,2C013,2C014,2C015",
   "2C016,2C017,2C018,2C019,2C020,2C021,2C022,2C023,2C024,2D001,2D002,2D003,2D004,2D005,2D006,2D007",
   "2D008,2D008A,2D009,2D010,2D011,2D012,2D013,2D014,2D015,2D016,2D017,2D018,2D019,2D020,2D021,2D022",
   "2D023,2D024,2D025,2D026,2D027,2D027A,2D028,2D029,2D030,2D031,2D031A,2D032,2D033,2D034,2D034A,2D035",
   "2D036,2D037,2D038,2D039,2D040,2D041,2D042,2D043,2D044,2D045,2D046,2D046A,2D047,2D048,2D048A,2D049",
   "2D050,2D050A,2D050B,2D050C,2D050D,2D050E,2D050F,2D050G,2D050H,2D050I,2D051,2D052,2D052A,2D053,2D054",
   "2D054A,2D055,2D056,2D057,2D058,2D059,2D060,2D061,2D062,2D063,2D064,2D065,2D066,2D067,2D067A,2D067B",
   "2D067C,2D067D,2D067E,2D067F,2D067G,2D067H,2E001,2E002,2E003,2E004,2E005,2E006,2E007,2E008,2E008A",
   "2E009,2E009A,2E010,2E011,2E012,2E013,2E014,2E015,2E016,2E016A,2E017,2E017A,2E018,2E019,2E020,2E020A",
   "2E021,2E022,2E023,2E024,2E025,2E026,2E027,2E028,2E028A,2E029,2E030,2E031,2E032,2E033,2E034,2E034A",
   "2E036,2E037,2E038,2F001,2F001A,2F002,2F003,2F004,2F005,2F006,2F007,2F008,2F009,2F010,2F011,2F012",
   "2F013,2F013A,2F014,2F015,2F016,2F017,2F018,2F019,2F020,2F021,2F021A,2F022,2F023,2F024,2F025,2F026",
   "2F027,2F028,2F029,2F030,2F031,2F031A,2F032,2F033,2F034,2F035,2F036,2F037,2F037A,2F038,2F038A,2F039",
   "2F040,2F041,2F042,2F043,2F044,2F045,2F045A,2F046,2F046A,2F047,2F047A,2F048,2F049,2F050,2F051,2F051A",
   "2F051B,2F051C,2F052,2F053,2G001,2G002,2G003,2G004,2G005,2G006,2G006A,2G007,2G007A,2G007B,2G008,2G009",
   "2G010,2G011,2G011A,2G012,2G013,2G014,2G015,2G016,2G017,2G018,2G019,2G020,2G020A,2G021,2G022,2G023",
   "2G024,2G025,2G026,2G026A,2G027,2G028,2G029,2G030,2G031,2G032,2G033,2G034,2G035,2G036,2G036A,2G037",
   "2G037A,2G038,2G039,2G040,2G041,2G042,2G043,2G043A,2G044,2G045,2G045A,2G046,2G047,2G048,2G049,2G050",
   "2G051,2G052,2G053,2G054,2H001,2H002,2H003,2H004,2H005,2H006,2H006A,2H007,2H008,2I001,2I002,2I003",
   "2I004,2I005,2I005A,2I006,2I007,2I008,2I009,2I009A,2I010,2I010A,2I011,2I011A,2I012,2I013,2I014,2I015",
   "2K001,2K002,2K003,2K004,2K005,2K006,2K007,2K008,2L001,2L002,2L002A,2L003,2L004,2L005,2L006,2L006A",
   "2L007,2L008,2M001,2M001A,2M001B,2M002,2M003,2M003A,2M004,2M005,2M006,2M007,2M008,2M009,2M010,2M010A",
   "2M011,2M012,2M012A,2M012B,2M012C,2M012D,2M012E,2M012F,2M012G,2M012H,2M013,2M014,2M015,2M015A,2M016",
   "2M016A,2M017,2M017A,2M018,2M019,2M020,2M021,2M022,2M022A,2M023,2M024,2M024A,2M025,2M026,2M027,2M028",
   "2M028A,2M029,2M030,2M031,2M031A,2M032,2M033,2M033A,2M033B,2M034,2M035,2M036,2M037,2M038,2M039,2M040",
   "2M040A,2M041,2M042,2M043,2M044,2N001,2N002,2N003,2N004,2N005,2N006,2N007,2N008,2N009,2N010,2N011",
   "2N012,2N013,2N014,2N015,2N016,2N017,2N018,2N018A,2N018B,2N019,2N020,2N021,2N022,2N023,2N024,2N025",
   "2N025A,2N026,2N027,2N028,2N029,2N030,2N031,2N032,2N033,2N033A,2N034,2N034A,2N035,2N035A,2N036,2N037",
   "2N037A,2N038,2N039,2N040,2N041,2N042,2NL001,2NL002,2NL003,2NL004,2NL005,2NL005A,2NL006,2NL007,2NL008",
   "2NL009,2NL010,2NL011,2NL012,2NL013,2NL014,2NL015,2NL016,2NL017,2NL017A,2NL018,2NL019,2NL020,2NU001",
   "2NU002,2NU003,2NU004,2NU005,2NU006,2NU007,2NU008,2NU009,2NU010,2NU010A,2NU011,2NU011A,2NU012,2NU013",
   "2NU014,2NU015,2NU016,2NU017,2NU018,2NU018A,2NU019,2NU020,2NU021,2NU022,2NU022A,2O001,2O001A,2O002",
   "2O003,2O004,2O005,2O005A,2O006,2O006A,2O006B,2O006C,2O006D,2O006E,2O006F,2O007,2O008,2O009,2O010",
   "2O010A,2O010B,2O010C,2O011,2O012,2O013,2O014,2O015,2O016,2O017,2O018,2O019,2O019A,2O020,2O020A,2O021",
   "2O022,2O023,2O024,2O024A,2O025,2O025A,2O026,2O027,2O028,2O029,2O029A,2O030,2O030A,2O031,2O032,2O033",
   "2O033A,2O034,2O035,2O036,2O036A,2O036B,2O036C,2O036D,2O037,2O038,2O039,2O040,2O041,2O042,2O043,2O044",
   "2O045,2O046,2O047,2O048,2O049,2O050,2O050A,2O050B,2O051,2P001,2P001A,2P002,2P003,2P003A,2P004,2P005",
   "2P006,2P007,2P008,2P009,2P010,2P011,2Q001,2Q002,2Q003,2Q004,2Q005,2Q006,2Q007,2R001,2R002,2R002A",
   "2R003,2R003A,2R003B,2R004,2R005,2R006,2R007,2R008,2R009,2R010,2R010A,2R011,2R012,2R013,2R014,2R015",
   "2R016,2R016A,2R017,2R018,2R019,2R020,2R021,2R022,2R023,2R024,2R025,2R026,2R027,2R028,2R029,2S001",
   "2S002,2S002A,2S003,2S004,2S005,2S006,2S006A,2S007,2S008,2S009,2S010,2S011,2S012,2S013,2S014,2S014A",
   "2S014B,2S015,2S016,2S017,2S017A,2S018,2S019,2S020,2S021,2S022,2S023,2S024,2S025,2S026,2S026A,2S026B",
   "2S027,2S028,2S029,2S030,2S031,2S032,2S033,2S034,2S035,2S035A,2S036,2S037,2S038,2S039,2S040,2S041",
   "2S042,2S043,2S044,2S045,2S046,2T001,2T002,2T003,2T003A,2T004,2T005,2T006,2T007,2T007A,2T008,2T008A",
   "2T009,2T009A,2T010,2T011,2T011A,2T012,2T013,2T014,2T015,2T016,2T016A,2T017,2T018,2T019,2T020,2T021",
   "2T022,2T023,2T024,2T025,2T026,2T027,2T028,2T029,2T030,2T031,2T032,2T032A,2T033,2T033A,2T034,2T035",
   "2T036,2U001,2U002,2U003,2U004,2U005,2U006,2U006A,2U006B,2U007,2U008,2U009,2U010,2U011,2U012,2U013",
   "2U014,2U015,2U016,2U017,2U018,2U019,2U020,2U021,2U022,2U023,2U023A,2U024,2U025,2U026,2U027,2U028",
   "2U029,2U029A,2U030,2U031,2U032,2U032A,2U033,2U034,2U035,2U036,2U037,2U038,2U039,2U040,2U041,2U042",
   "2V001,2V001A,2V001B,2V001C,2V001D,2V001E,2V001F,2V001G,2V001H,2V001I,2V002,2V002A,2V003,2V004,2V005",
   "2V006,2V007,2V007A,2V007B,2V008,2V009,2V010,2V011,2V011A,2V011B,2V011C,2V012,2V012A,2V012B,2V013",
   "2V014,2V015,2V016,2V017,2V018,2V019,2V020,2V020A,2V020B,2V020C,2V020D,2V020E,2V020F,2V020G,2V020H",
   "2V020I,2V020J,2V020K,2V020L,2V021,2V022,2V023,2V023A,2V024,2V025,2V026,2V027,2V028,2V028A,2V029",
   "2V029A,2V030,2V030A,2V031,2V031A,2V032,2V033,2V033A,2V034,2V035,2V036,2V037,2V037A,2V038,2V039,2V040",
   "2V040A,2W001,2W002,2W003,2W003A,2W004,2W005,2W006,2W007,2W008,2W009,2W009A,2W010,2W010A,2W011,2W012",
   "2W013,2W014,2W014A,2W015,2W016,2W017,2W017A,2W018,2W018A,2W019,2W020,2W021,2W022,2W023,2W024,2W024A",
   "2W025,2X001,2X002,2X003,2X004,2X004A,2X004B,2X005,2X006,2X006A,2X007,2X008,2X008A,2Y001,2Y001A,2Y002",
   "2Y003,2Y004,2Y005,2Y006,2Y007,2Y008,2Z001,2Z002,2Z002A,2Z002B,2Z002C,2Z002D,2Z003,2Z003A,2Z003B",
   "2Z004,2Z004A,2Z005,2Z005A,2Z006,2Z007,2Z008,2Z009,2Z010,2Z011,2Z012,2Z013,2Z014,2Z015,2Z015A,2Z015B",
   "2Z015C,2Z015D,2Z015E,2Z015F,2Z015G,2Z015H,2Z015I,2Z016,2Z016A,2Z016B,2Z016C,2Z016D,2Z016E,2Z016F",
   "2Z016G,2Z016H,2AA001,2AA002,2AA003,2AA004,2AA005,2AA006,2AA007,2AA007A,2AA007B,2AA008,2AA009,2AA010",
   "2AA011,2AA012,2AA013,2AA014,2AA015,2AA016,2AA017,2AA018,2AA019,2AA020,2AA021,2AA022,2AA023,2AA024",
   "2AA025,2AA026,2AA027,2AA028,2AA029,2AA030,2AA031,2AA032,+1,2ynlc,2jtlc,2INSERT ATxhSTART,4cfSTART",
   "4xhgl,4cfgl,2pxns,2BEGIN SEGMENT,2glSEGMENT,+fc7,0ANATOLIAN HIEROGLYPH A001,2A002,2A003,2A004,2A005",
   "2A006,2A007,2A008,2A009,2A010,2A010A,2A011,2A012,2A013,2A014,2A015,2A016,2A017,2A018,2A019,2A020",
   "2A021,2A022,2A023,2A024,2A025,2A026,2A026A,2A027,2A028,2A029,2A030,2A031,2A032,2A033,2A034,2A035",
   "2A036,2A037,2A038,2A039,2A039A,2A040,2A041,2A041A,2A042,2A043,2A044,2A045,2A045A,2A046,2A046A,2A046B",
   "2A047,2A048,2A049,2A050,2A051,2A052,2A053,2A054,2A055,2A056,2A057,2A058,2A059,2A060,2A061,2A062",
   "2A063,2A064,2A065,2A066,2A066A,2A066B,2A066C,2A067,2A068,2A069,2A070,2A071,2A072,2A073,2A074,2A075",
   "2A076,2A077,2A078,2A079,2A080,2A081,2A082,2A083,2A084,2A085,2A086,2A087,2A088,2A089,2A090,2A091",
   "2A092,2A093,2A094,2A095,2A096,2A097,2A097A,2A098,2A098A,2A099,2A100,2A100A,2A101,2A101A,2A102,2A102A",
   "2A103,2A104,2A104A,2A104B,2A104C,2A105,2A105A,2A105B,2A106,2A107,2A107A,2A107B,2A107C,2A108,2A109",
   "2A110,2A110A,2A110B,2A111,2A112,2A113,2A114,2A115,2A115A,2A116,2A117,2A118,2A119,2A120,2A121,2A122",
   "2A123,2A124,2A125,2A125A,2A126,2A127,2A128,2A129,2A130,2A131,2A132,2A133,2A134,2A135,2A135A,2A136",
   "2A137,2A138,2A139,2A140,2A141,2A142,2A143,2A144,2A145,2A146,2A147,2A148,2A149,2A150,2A151,2A152",
   "2A153,2A154,2A155,2A156,2A157,2A158,2A159,2A160,2A161,2A162,2A163,2A164,2A165,2A166,2A167,2A168",
   "2A169,2A170,2A171,2A172,2A173,2A174,2A175,2A176,2A177,2A178,2A179,2A180,2A181,2A182,2A183,2A184",
   "2A185,2A186,2A187,2A188,2A189,2A190,2A191,2A192,2A193,2A194,2A195,2A196,2A197,2A198,2A199,2A200",
   "2A201,2A202,2A202A,2A202B,2A203,2A204,2A205,2A206,2A207,2A207A,2A208,2A209,2A209A,2A210,2A211,2A212",
   "2A213,2A214,2A215,2A215A,2A216,2A216A,2A217,2A218,2A219,2A220,2A221,2A222,2A223,2A224,2A225,2A226",
   "2A227,2A227A,2A228,2A229,2A230,2A231,2A232,2A233,2A234,2A235,2A236,2A237,2A238,2A239,2A240,2A241",
   "2A242,2A243,2A244,2A245,2A246,2A247,2A248,2A249,2A250,2A251,2A252,2A253,2A254,2A255,2A256,2A257",
   "2A258,2A259,2A260,2A261,2A262,2A263,2A264,2A265,2A266,2A267,2A267A,2A268,2A269,2A270,2A271,2A272",
   "2A273,2A274,2A275,2A276,2A277,2A278,2A279,2A280,2A281,2A282,2A283,2A284,2A285,2A286,2A287,2A288",
   "2A289,2A289A,2A290,2A291,2A292,2A293,2A294,2A294A,2A295,2A296,2A297,2A298,2A299,2A299A,2A300,2A301",
   "2A302,2A303,2A304,2A305,2A306,2A307,2A308,2A309,2A309A,2A310,2A311,2A312,2A313,2A314,2A315,2A316",
   "2A317,2A318,2A319,2A320,2A321,2A322,2A323,2A324,2A325,2A326,2A327,2A328,2A329,2A329A,2A330,2A331",
   "2A332A,2A332B,2A332C,2A333,2A334,2A335,2A336,2A336A,2A336B,2A336C,2A337,2A338,2A339,2A340,2A341",
   "2A342,2A343,2A344,2A345,2A346,2A347,2A348,2A349,2A350,2A351,2A352,2A353,2A354,2A355,2A356,2A357",
   "2A358,2A359,2A359A,2A360,2A361,2A362,2A363,2A364,2A364A,2A365,2A366,2A367,2A368,2A368A,2A369,2A370",
   "2A371,2A371A,2A372,2A373,2A374,2A375,2A376,2A377,2A378,2A379,2A380,2A381,2A381A,2A382,2A383 RA OR RI",
   "2A383A,2A384,2A385,2A386,2A386A,2A387,2A388,2A389,2A390,2A391,2A392,2A393gc,2A394,2A395,2A396,2A397",
   "2A398,2A399,2A400,2A401,2A402,2A403,2A404,2A405,2A406,2A407,2A408,2A409,2A410 BEGIN LOGOGRAMnk",
   "2A410AglLOGOGRAMnk,2A411,2A412,2A413,2A414,2A415,2A416,2A417,2A418,2A419,2A420,2A421,2A422,2A423",
   "2A424,2A425,2A426,2A427,2A428,2A429,2A430,2A431,2A432,2A433,2A434,2A435,2A436,2A437,2A438,2A439",
   "2A440,2A441,2A442,2A443,2A444,2A445,2A446,2A447,2A448,2A449,2A450,2A450A,2A451,2A452,2A453,2A454",
   "2A455,2A456,2A457,2A457A,2A458,2A459,2A460,2A461,2A462,2A463,2A464,2A465,2A466,2A467,2A468,2A469",
   "2A470,2A471,2A472,2A473,2A474,2A475,2A476,2A477,2A478,2A479,2A480,2A481,2A482,2A483,2A484,2A485",
   "2A486,2A487,2A488,2A489,2A490,2A491,2A492,2A493,2A494,2A495,2A496,2A497,2A501,2A502,2A503,2A504",
   "2A505,2A506,2A507,2A508,2A509,2A510,2A511,2A512,2A513,2A514,2A515,2A516,2A517,2A518,2A519,2A520",
   "2A521,2A522,2A523,2A524,2A525,2A526,2A527,2A528,2A529,2A530,+21b9,0BAMUMmqPHASE-A NGKUE MFON",
   "3GBIEE FON,3PON MFON PIPAEMGBIEE,5PIPAEMBA,3NAA MFON,3SHUENSHUET,3TITA MFON,3NZA MFON,3SHINDA PA NJI",
   "3PON PA NJI PIPAEMGBIEE,6PIPAEMBA,3MAEMBGBIEE,3TU MAEMBA,3NGANGU,3MAEMVEUX,3MANSUAE,3MVEUAENGAM",
   "3SEUNYAM,3NTOQPEN,3KEUKEUTNDA,3NKINDI,3SUU,3NGKUENZEUM,3LAPAQ,3LET KUT,3NTAP MFAA,3MAEKEUP,3PASHAE",
   "3GHEUAERAE,3PAMSHAE,3MON NGGEUAET,3NZUN MEUT,3U YUQ NAE,3GHEUAEGHEUAE,3NTAP NTAA,3SISA,3MGBASA",
   "3MEUNJOMNDEUQ,3MOOMPUQ,3KAFA,3PA LEERAEWA,3NDA LEERAEWA,3PET,3MAEMKPEN,3NIKA,3PUP,3TUAEP,3LUAEP",
   "3SONJAM,3TEUTEUWEN,3MAENYI,3KET,3NDAANGGEUAET,3KUOQ,3MOOMEUT,3SHUM,3LOMMAE,3FIRI,3ROM,3KPOQ,3SOQ",
   "3MAP PIEET,3SHIRAE,3NTAP,3SHOQ NSHUT YUM,3NYIT MONGKEUAEQ,3PAARAE,3NKAARAE,3UNKNOWN,3NGGEN,3MAESI",
   "3NJAM,3MBANYI,3NYET,3TEUAEN,3SOT,3PAAM,3NSHIEE,3MAEM,3NYI,3KAQ,3NSHA,3VEE,3LU,3NEN,3NAQ,3MBAQ",
   "2PHASE-B NSHUET,3TU MAEMGBIEE,3SIEE,3SET TU,3LOM NTEUM,3MBA MAELEE,3KIEEM,3YEURAE,3MBAARAE,3KAM",
   "3PEESHI,3YAFU LEERAEWA,3lzNSHUT NYAM,3NTIEE SHEUOQ,3NDU NJAA,3GHEUGHEUAEM,3PIT,3TU NSIEE,3SHET NJAQ",
   "3SHEUAEQTU,3MFON TEUAEQ,3MBIT MBAAKET,3NYI NTEUM,3KEUPUQ,3GHEUGHEN,3KEUYEUX,3LAANAE,3PARUM,3VEUM",
   "3NGKINDI MVOP,3NGGEU MBU,3WUAET,3SAKEUAE,3TAAM,3MEUQ,3NGGUOQ,4mc,3MFIYAQ,3SUE,3MBEURI,3MONTIEEN",
   "3NYAEMAE,3PUNGAAM,3MEUT NGGEET,3FEUX,3MBUOQ,3FEE,3KEUAEM,3MA NJEUAENA,4NJUQA,3LET,3NGGAAM,3NSEN,3MA",
   "3KIQ,3NGOM,2PHASE-C NGKUE MAEMBA,3NZA,3YUM,3WANGKUOQ,3NGGEN,3NDEUAEREE,3NGKAQ,3GHARAE,3MBEEKEET",
   "3GBAYI,3NYIR MKPARAQ MEUN,3NTU MBIT,3MBEUM,3PIRIEEN,3NDOMBU,3MBAA CABBAGE-TREE,3KEUSHEUAEP,3GHAP",
   "3KEUKAQ,3YU MUOMAE,3NZEUM,3MBUE,3NSEUAEN,3MBIT,3YEUQ,3KPARAQ,3KAA,3SEUX,3NDIDA,3TAASHAE,3NJUEQ",
   "3TITA YUE,3SUAET,3NGGUAEN NYAM,3VEUX,3NANSANAQ,3MA KEUAERI,3NTAA,3NGGUON,3LAP,3MBIRIEEN,3MGBASAQ",
   "3NTEUNGBA,3TEUTEUX,3NGGUM,3FUE,3NDEUT,3NSA,3NSHAQ,3BUNG,3VEUAEPEN,3MBERAE,3RU,3NJAEM,3lz,3TITUAEP",
   "3NSUOT NGOM,3NJEEEE,3KET,3NGGU,3MAESI,3MBUAEM,3LU,3KUT,3NJAM,3NGOM,3WUP,3NGGUEET,3NSOM,3NTEN",
   "3KUOP NKAARAE,3NSUN,3NDAM,3MA NSIEE,3YAA,3NDAP,3SHUEQ,3SETFON,3MBI,3MAEMBA,3MBANYI,3KEUSEUX,3MBEUX",
   "3KEUM,3MBAA PICKET,3YUWOQ,3NJEUX,3MIEE,3MUAE,3SHIQ,3KEN LAW,4FATIGUE,3NGAQ,3NAQ,3LIQ,3PIN,3PEN,3TET",
   "2PHASE-D MBUO,3WAP,3NJI,3MFON,3NJIEE,3LIEE,3NJEUT,3NSHEE,3NGGAAMAE,3NYAM,3WUAEN,3NGKUN,3SHEE,3NGKAP",
   "3KEUAETMEUN,3TEUT,3SHEUAE,3NJAP,3SUE,3KET,3YAEMMAE,3KUOM,3SAP,3MFEUT,3NDEUX,3MALEERI,3MEUT,3SEUAEQ",
   "3YEN,3NJEUAEM,3KEUOT MBUAE,3NGKEURI,3TU,3GHAA,3NGKYEE,3FEUFEUAET,3NDEE,3MGBOFUM,3LEUAEP,3NDON,3MONI",
   "3MGBEUN,3PUUT,3MGBIEE,3MFO,3LUM,3NSIEEP,3MBAA,3KWAET,3NYET,3TEUAEN,3SOT,3YUWOQ,3KEUM,3RAEM,3TEEEE",
   "3NGKEUAEQ,3MFEUAE,3NSIEET,3KEUP,3PIP,3PEUTAE,3NYUE,3LET,3NGGAAM,3MFIEE,3NGGWAEN,3YUOM,3qc,3YUOP",
   "3NDAM,3NTEUM,3SUAE,3KUN,3NGGEUX,3NGKIEE,3TUOT,3MEUN,3KUQ,3NSUM,3TEUN,3MAENJET,3NGGAP,3LEUM,3NGGUOM",
   "3NSHUT,3NJUEQ,3GHEUAE,3KU,3RENpl,3TAE,3TOQ,3NYI,3RII,3LEEEE,3MEEEE,3M,3SUU,3MU,3SHII,3SHEUX,3KYEE",
   "3NU,3SHU,3NTEE,3PEE,3NI,3SHOQ,3PUQ,3MVOP,3LOQ,3REN MUCH,3TI,3NTUU,3MBAAtg,3SAQ,3FAA,2PHASE-E NDAP",
   "3TOON,3MBEUM,3LAP,3VOM,3LOON,3PAA,3SOM,3RAQ,3NSHUOP,3NDUN,3PUAE,3TAM,3NGKA,3KPEUX,3WUO,3SEE",
   "3NGGEUAET,3PAAM,3TOO,3KUOP,3LOM,3NSHIEE,3NGOP,3MAEM,3NGKEUX,3NGOQ,3NSHUE,3RIMGBA,3NJEUX,3PEEM,3SAA",
   "3NGGURAE,3MGBA,3GHEUX,3NGKEUAEM,3NJAEMLI,3MAP,3LOOT,3NGGEEEE,3NDIQ,3TAEN NTEUM,3SET,3PUM",
   "3NDAA SOFTNESS,3NGGUAESHAE NYAM,3YIEE,3GHEUN,3TUAE,3YEUAE,3PO,3TUMAE,3KEUAE,3SUAEN,3TEUAEQ,3VEUAE",
   "3WEUX,3LAAM,3PU,3TAAQ,3GHAAMAE,3NGEUREUT,3SHEUAEQ,3MGBEN,3MBEE,3NZAQ,3NKOM,3GBET,3TUM,3KUET,3YAP",
   "3NYI CLEAVER,3YIT,3MFEUQ,3NDIAQ,3PIEEQ,3YUEQ,3LEUAEM,3FUE,3GBEUX,3NGKUP,3KET,3MAE,3NGKAAMI,3GHET,3FA",
   "3NTUM,3PEUT,3YEUM,3NGGEUAE,3NYIbx,3NZUQ,3POON,3MIEE,3FUET,3NAE,3MUAE,3GHEUAE,3FU I,3MVI,3PUAQ,3NGKUM",
   "3KUT,3PIET,3NTAP,3YEUAET,3NGGUP,3PA PEOPLE,3FU CALL,3FOM,3NJEE,3A,3TOQ,3O,3I,3LAQ,3PA PLURAL,3TAA",
   "3TAQ,3NDAA MY HOUSE,3SHIQ,3YEUX,3NGUAE,3YUAEN,3YOQ SWIMMING,4COVER,3YUQ,3YUN,3KEUX,3PEUX,3NJEE EPOCH",
   "3PUE,3WUE,3FEE,3VEE,3LU,3MI,3REUX,3RAE,3NGUAET,3on,3SHO,3SHOQ,3FU REMEDY,3NA,3PI,3LOQ,3KO,3MEN,3MA",
   "3MAQ,3TEU,3KI,3MON,3wf,3FAQ,3GHOM,2PHASE-F KA,3U,3KU,3EE,3REE,3TAE,3NYI,3LA,3RII,3RIEE,3MEEEE,3TAA",
   "3NDAA,3NJAEM,3M,3SUU,3SHII,3SI,3SEUX,3KYEE,3KET,3NUAE,3NU,3NJUAE,3YOQ,3SHU,3YA,3NSHA,3PEUX,3NTEE",
   "3WUE,3PEE,3RU,3NI,3REUX,3KEN,3NGKWAEN,3NGGA,3SHO,3PUAE,3FOM,3WA,3LI,3LOQ,3KO,3MBEN,3REN,3MA,3MO",
   "3MBAA,3TET,3KPA,3SAMBA,3VUEQ,+7,0MROmqTA,2NGI,2YO,2MIM,2BA,2DA,2A,2qm,2KHAI,2HAO,2DAI,2CHU,2KEAAE",
   "2OL,2MAEM,2NIN,2PA,2OO,2O,2RO,2SHI,2THEA,2EA,2WA,2E,2KO,2LAN,2LA,2HAI,2RI,2TEK,+1,1fhzv,2po,2ya,2wu",
   "2hy,2hq,2uf,2tg,2gc,2oq,+4,1eq,1fseq,0TANGSAmqOZ,2OC,2OQ,2OX,2AZ,2AC,2AQ,2AX,2VZ,2VC,2VQ,2VX,2EZ,2EC",
   "2EQ,2EX,2IZ,2IC,2IQ,2IX,2UZ,2UC,2UQ,2UX,2AWZ,2AWC,2AWQ,2AWX,2UIZ,2UIC,2UIQ,2UIX,2hjNG,2mxUEX,2tvUEZ",
   "3AWX,2UEC,2UEZ,2UEQ,2UEX,2UIUZ,2UIUC,2UIUQ,2UIUX,2MZ,2MC,2MQ,2MX,2KA,2lm,2GA,2on,2SA,2YA,2WA,2PA,2ph",
   "2ql,2BA,2MA,2NA,2HA,2LA,2HTA,2TA,2DA,2RA,2NHA,2tj,2CA,2xo,2ii,2HTTA,2wh,2XA,2FA,2ez,2cy,2ZA,+1,1fhzv",
   "2po,2ya,2wu,2hy,2hq,2uf,2tg,2gc,2oq,+6,0BASSA VAHmqENNI,3KA,3SE,3FA,3MBE,3YIE,3GAH,3DHII,3KPAH,3JO",
   "3HWAH,3WA,3ZO,3GBU,3DO,3CE,3UWU,3TO,3BA,3VU,3YEIN,3PA,3WADDA,3A,3O,3OO,3U,3EE,3E,3I,+2,2dqjnxa,3naxa",
   "3MIDxa,3LOW-MIDxa,3HIGH-LOWxa,2icvd,+a,0PAHAWH HMONGyvKEEB,3KEEV,3KIB,3KIV,3KAUB,3KAUV,3KUB,3KUV",
   "3KEB,3KEV,3KAIB,3KAIV,3KOOB,3KOOV,3KAWB,3KAWV,3KUAB,3KUAV,3KOB,3KOV,3KIAB,3KIAV,3KAB,3KAV,3KWB,3KWV",
   "3KAAB,3KAAV,2dvVAU,3NTSAU,3LAU,3HAU,3NLAU,3RAU,3NKAU,3QHAU,3YAU,3HLAU,3MAU,3CHAU,3NCHAU,3HNAU,3PLHAU",
   "3NTHAU,3NAU,3AU,3XAU,3CAU,2nkCIM TUB,4SO,4KES,4KHAV,4SUAM,4HOM,4TAUM,2uaVOS THOM,4TSHAB CEEB",
   "3CIM CHEEM,3VOS THIAB,4FEEM,3XYEEM NTXIV,4ru,4TOV,4FAIB,3VOS SEEV,3MEEJ SUAB,3VOS NRUA,3IB YAM,3XAUS",
   "3CIM TSOV ROG,+a,2fhzv,3po,3ya,3wu,3hy,3hq,3uf,3tg,3gc,3oq,+1,2peTENS,3HUNDREDS,3wfwt,3nu,3jwnu",
   "3wfBILLIONS,3TRILLIONS,+1,2uaVOS LUB,3XYOO,3HLI,3THIRD-STAGE HLI,3ZWJ THAJ,3HNUB,3NQIG,3XIAB,3NTUJ",
   "3AV,3TXHEEJ CEEV,3MEEJ TSEEB,3vz,3LOS,3MUS,3CIM HAIS LUS NTOG NTOG,4CUAM TSHOOJ,4TXWV,5CHWV",
   "4PUB DAWB,4NRES TOS,+5,2CLANuaTSHEEJ,4YEEG,4LIS,4LAUJ,4XYOOJ,4KOO,4HAWJ,4MUAS,4THOJ,4TSAB,4PHAB",
   "4KHAB,4HAM,4VAJ,4FAJ,4YAJ,4TSWB,4KWM,4VWJ,+2b0,0MEDEFAIDRINcpmqM,3S,3V,3W,3ATIU,3Z,3KP,3P,3T,3G,3F",
   "3I,3K,3A,3J,3E,3B,3C,3U,3YU,3L,3Q,3HP,3NY,3X,3D,3OE,3N,3R,3O,3AI,3Y,1ulmqM,3S,3V,3W,3ATIU,3Z,3KP,3P",
   "3T,3G,3F,3I,3K,3A,3J,3E,3B,3C,3U,3YU,3L,3Q,3HP,3NY,3X,3D,3OE,3N,3R,3O,3AI,3Y,1fhzv,2po,2ya,2wu,2hy",
   "2hq,2uf,2tg,2gc,2oq,1pewf,2gj,2xx,2wp,2hz,2hf,2ug,2th,2gd,2or,1fhpoamhv,2yaamhv,2wuamhv,1dr,1icvd",
   "1vtAIVA,1gvOH,+65,0MIAOmqPA,2BA,2YI PA,2PLA,2MA,2MHA,2ayMA,2FA,2VA,2VFA,2TA,2DA,2YIxr,3TA,2xr,2eu",
   "2NA,2NHA,2YIot,2ayNA,2ot,2NNHA,2LA,2LYA,2LHA,2LHYA,2TLHA,2DLHA,2TLHYA,2DLHYA,2KA,2GA,2YI KA,2QA,2QGA",
   "2on,2NGHA,2ayon,2HA,2XA,2ii,2GHHA,2TSSA,2DZZA,2ph,2NYHA,2xp,2DZHA,2YIxp,3DZHA,2REFORMEDxp,2tj,2uy",
   "2zx,2ZSHA,2xo,2DZA,2YIxo,2SA,2ZA,2ZSA,2ZZA,2ZZSA,2ayZZA,2ZZYA,2ZZSYA,2WA,2AH,2HHA,2BRI,2SYI,2DZYI",
   "2TE,2TSE,2RTE,+4,1uadvnwbo,1mqNASALIZATION,1uaASPIRATION,2REFORMED VOICING,3ASPIRATION,1yvuaA,3AA",
   "3AHH,3AN,3ANG,3O,3OO,3WO,3W,3E,3EN,3ENG,3OEY,3I,3IA,3IAN,3IANG,3IO,3IE,3II,3IU,3ING,3U,3UA,3UAN",
   "3UANG,3UU,3UEI,3UNG,3Y,3YI,3AE,3AEE,3ERR,3smERR,3ER,3smER,3AI,3EI,3AU,3OU,3N,3NG,3UOG,3YUI,3OG,3OER",
   "3VW,3IG,3EA,3IONG,3UI,+7,1xarz,2xhrz,2ac,2bs,1mqxb,2xc,2xd,2xe,2TONE-6,2TONE-7,2TONE-8",
   "2REFORMED TONE-1,3xb,3xd,3xe,3TONE-6,3TONE-8,+40,0TANGUTkvnk,0NUSHUkvnk,0plCHINESEjsnk,2kvnk",
   "0KHITANulsxhi,+b,0VIETNAMESEamREADINGnkCA,4NHAY,+180e,0TANGUT COMPONENT-001,1COMPONENT-002",
   "1COMPONENT-003,1COMPONENT-004,1COMPONENT-005,1COMPONENT-006,1COMPONENT-007,1COMPONENT-008",
   "1COMPONENT-009,1COMPONENT-010,1COMPONENT-011,1COMPONENT-012,1COMPONENT-013,1COMPONENT-014",
   "1COMPONENT-015,1COMPONENT-016,1COMPONENT-017,1COMPONENT-018,1COMPONENT-019,1COMPONENT-020",
   "1COMPONENT-021,1COMPONENT-022,1COMPONENT-023,1COMPONENT-024,1COMPONENT-025,1COMPONENT-026",
   "1COMPONENT-027,1COMPONENT-028,1COMPONENT-029,1COMPONENT-030,1COMPONENT-031,1COMPONENT-032",
   "1COMPONENT-033,1COMPONENT-034,1COMPONENT-035,1COMPONENT-036,1COMPONENT-037,1COMPONENT-038",
   "1COMPONENT-039,1COMPONENT-040,1COMPONENT-041,1COMPONENT-042,1COMPONENT-043,1COMPONENT-044",
   "1COMPONENT-045,1COMPONENT-046,1COMPONENT-047,1COMPONENT-048,1COMPONENT-049,1COMPONENT-050",
   "1COMPONENT-051,1COMPONENT-052,1COMPONENT-053,1COMPONENT-054,1COMPONENT-055,1COMPONENT-056",
   "1COMPONENT-057,1COMPONENT-058,1COMPONENT-059,1COMPONENT-060,1COMPONENT-061,1COMPONENT-062",
   "1COMPONENT-063,1COMPONENT-064,1COMPONENT-065,1COMPONENT-066,1COMPONENT-067,1COMPONENT-068",
   "1COMPONENT-069,1COMPONENT-070,1COMPONENT-071,1COMPONENT-072,1COMPONENT-073,1COMPONENT-074",
   "1COMPONENT-075,1COMPONENT-076,1COMPONENT-077,1COMPONENT-078,1COMPONENT-079,1COMPONENT-080",
   "1COMPONENT-081,1COMPONENT-082,1COMPONENT-083,1COMPONENT-084,1COMPONENT-085,1COMPONENT-086",
   "1COMPONENT-087,1COMPONENT-088,1COMPONENT-089,1COMPONENT-090,1COMPONENT-091,1COMPONENT-092",
   "1COMPONENT-093,1COMPONENT-094,1COMPONENT-095,1COMPONENT-096,1COMPONENT-097,1COMPONENT-098",
   "1COMPONENT-099,1COMPONENT-100,1COMPONENT-101,1COMPONENT-102,1COMPONENT-103,1COMPONENT-104",
   "1COMPONENT-105,1COMPONENT-106,1COMPONENT-107,1COMPONENT-108,1COMPONENT-109,1COMPONENT-110",
   "1COMPONENT-111,1COMPONENT-112,1COMPONENT-113,1COMPONENT-114,1COMPONENT-115,1COMPONENT-116",
   "1COMPONENT-117,1COMPONENT-118,1COMPONENT-119,1COMPONENT-120,1COMPONENT-121,1COMPONENT-122",
   "1COMPONENT-123,1COMPONENT-124,1COMPONENT-125,1COMPONENT-126,1COMPONENT-127,1COMPONENT-128",
   "1COMPONENT-129,1COMPONENT-130,1COMPONENT-131,1COMPONENT-132,1COMPONENT-133,1COMPONENT-134",
   "1COMPONENT-135,1COMPONENT-136,1COMPONENT-137,1COMPONENT-138,1COMPONENT-139,1COMPONENT-140",
   "1COMPONENT-141,1COMPONENT-142,1COMPONENT-143,1COMPONENT-144,1COMPONENT-145,1COMPONENT-146",
   "1COMPONENT-147,1COMPONENT-148,1COMPONENT-149,1COMPONENT-150,1COMPONENT-151,1COMPONENT-152",
   "1COMPONENT-153,1COMPONENT-154,1COMPONENT-155,1COMPONENT-156,1COMPONENT-157,1COMPONENT-158",
   "1COMPONENT-159,1COMPONENT-160,1COMPONENT-161,1COMPONENT-162,1COMPONENT-163,1COMPONENT-164",
   "1COMPONENT-165,1COMPONENT-166,1COMPONENT-167,1COMPONENT-168,1COMPONENT-169,1COMPONENT-170",
   "1COMPONENT-171,1COMPONENT-172,1COMPONENT-173,1COMPONENT-174,1COMPONENT-175,1COMPONENT-176",
   "1COMPONENT-177,1COMPONENT-178,1COMPONENT-179,1COMPONENT-180,1COMPONENT-181,1COMPONENT-182",
   "1COMPONENT-183,1COMPONENT-184,1COMPONENT-185,1COMPONENT-186,1COMPONENT-187,1COMPONENT-188",
   "1COMPONENT-189,1COMPONENT-190,1COMPONENT-191,1COMPONENT-192,1COMPONENT-193,1COMPONENT-194",
   "1COMPONENT-195,1COMPONENT-196,1COMPONENT-197,1COMPONENT-198,1COMPONENT-199,1COMPONENT-200",
   "1COMPONENT-201,1COMPONENT-202,1COMPONENT-203,1COMPONENT-204,1COMPONENT-205,1COMPONENT-206",
   "1COMPONENT-207,1COMPONENT-208,1COMPONENT-209,1COMPONENT-210,1COMPONENT-211,1COMPONENT-212",
   "1COMPONENT-213,1COMPONENT-214,1COMPONENT-215,1COMPONENT-216,1COMPONENT-217,1COMPONENT-218",
   "1COMPONENT-219,1COMPONENT-220,1COMPONENT-221,1COMPONENT-222,1COMPONENT-223,1COMPONENT-224",
   "1COMPONENT-225,1COMPONENT-226,1COMPONENT-227,1COMPONENT-228,1COMPONENT-229,1COMPONENT-230",
   "1COMPONENT-231,1COMPONENT-232,1COMPONENT-233,1COMPONENT-234,1COMPONENT-235,1COMPONENT-236",
   "1COMPONENT-237,1COMPONENT-238,1COMPONENT-239,1COMPONENT-240,1COMPONENT-241,1COMPONENT-242",
   "1COMPONENT-243,1COMPONENT-244,1COMPONENT-245,1COMPONENT-246,1COMPONENT-247,1COMPONENT-248",
   "1COMPONENT-249,1COMPONENT-250,1COMPONENT-251,1COMPONENT-252,1COMPONENT-253,1COMPONENT-254",
   "1COMPONENT-255,1COMPONENT-256,1COMPONENT-257,1COMPONENT-258,1COMPONENT-259,1COMPONENT-260",
   "1COMPONENT-261,1COMPONENT-262,1COMPONENT-263,1COMPONENT-264,1COMPONENT-265,1COMPONENT-266",
   "1COMPONENT-267,1COMPONENT-268,1COMPONENT-269,1COMPONENT-270,1COMPONENT-271,1COMPONENT-272",
   "1COMPONENT-273,1COMPONENT-274,1COMPONENT-275,1COMPONENT-276,1COMPONENT-277,1COMPONENT-278",
   "1COMPONENT-279,1COMPONENT-280,1COMPONENT-281,1COMPONENT-282,1COMPONENT-283,1COMPONENT-284",
   "1COMPONENT-285,1COMPONENT-286,1COMPONENT-287,1COMPONENT-288,1COMPONENT-289,1COMPONENT-290",
   "1COMPONENT-291,1COMPONENT-292,1COMPONENT-293,1COMPONENT-294,1COMPONENT-295,1COMPONENT-296",
   "1COMPONENT-297,1COMPONENT-298,1COMPONENT-299,1COMPONENT-300,1COMPONENT-301,1COMPONENT-302",
   "1COMPONENT-303,1COMPONENT-304,1COMPONENT-305,1COMPONENT-306,1COMPONENT-307,1COMPONENT-308",
   "1COMPONENT-309,1COMPONENT-310,1COMPONENT-311,1COMPONENT-312,1COMPONENT-313,1COMPONENT-314",
   "1COMPONENT-315,1COMPONENT-316,1COMPONENT-317,1COMPONENT-318,1COMPONENT-319,1COMPONENT-320",
   "1COMPONENT-321,1COMPONENT-322,1COMPONENT-323,1COMPONENT-324,1COMPONENT-325,1COMPONENT-326",
   "1COMPONENT-327,1COMPONENT-328,1COMPONENT-329,1COMPONENT-330,1COMPONENT-331,1COMPONENT-332",
   "1COMPONENT-333,1COMPONENT-334,1COMPONENT-335,1COMPONENT-336,1COMPONENT-337,1COMPONENT-338",
   "1COMPONENT-339,1COMPONENT-340,1COMPONENT-341,1COMPONENT-342,1COMPONENT-343,1COMPONENT-344",
   "1COMPONENT-345,1COMPONENT-346,1COMPONENT-347,1COMPONENT-348,1COMPONENT-349,1COMPONENT-350",
   "1COMPONENT-351,1COMPONENT-352,1COMPONENT-353,1COMPONENT-354,1COMPONENT-355,1COMPONENT-356",
   "1COMPONENT-357,1COMPONENT-358,1COMPONENT-359,1COMPONENT-360,1COMPONENT-361,1COMPONENT-362",
   "1COMPONENT-363,1COMPONENT-364,1COMPONENT-365,1COMPONENT-366,1COMPONENT-367,1COMPONENT-368",
   "1COMPONENT-369,1COMPONENT-370,1COMPONENT-371,1COMPONENT-372,1COMPONENT-373,1COMPONENT-374",
   "1COMPONENT-375,1COMPONENT-376,1COMPONENT-377,1COMPONENT-378,1COMPONENT-379,1COMPONENT-380",
   "1COMPONENT-381,1COMPONENT-382,1COMPONENT-383,1COMPONENT-384,1COMPONENT-385,1COMPONENT-386",
   "1COMPONENT-387,1COMPONENT-388,1COMPONENT-389,1COMPONENT-390,1COMPONENT-391,1COMPONENT-392",
   "1COMPONENT-393,1COMPONENT-394,1COMPONENT-395,1COMPONENT-396,1COMPONENT-397,1COMPONENT-398",
   "1COMPONENT-399,1COMPONENT-400,1COMPONENT-401,1COMPONENT-402,1COMPONENT-403,1COMPONENT-404",
   "1COMPONENT-405,1COMPONENT-406,1COMPONENT-407,1COMPONENT-408,1COMPONENT-409,1COMPONENT-410",
   "1COMPONENT-411,1COMPONENT-412,1COMPONENT-413,1COMPONENT-414,1COMPONENT-415,1COMPONENT-416",
   "1COMPONENT-417,1COMPONENT-418,1COMPONENT-419,1COMPONENT-420,1COMPONENT-421,1COMPONENT-422",
   "1COMPONENT-423,1COMPONENT-424,1COMPONENT-425,1COMPONENT-426,1COMPONENT-427,1COMPONENT-428",
   "1COMPONENT-429,1COMPONENT-430,1COMPONENT-431,1COMPONENT-432,1COMPONENT-433,1COMPONENT-434",
   "1COMPONENT-435,1COMPONENT-436,1COMPONENT-437,1COMPONENT-438,1COMPONENT-439,1COMPONENT-440",
   "1COMPONENT-441,1COMPONENT-442,1COMPONENT-443,1COMPONENT-444,1COMPONENT-445,1COMPONENT-446",
   "1COMPONENT-447,1COMPONENT-448,1COMPONENT-449,1COMPONENT-450,1COMPONENT-451,1COMPONENT-452",
   "1COMPONENT-453,1COMPONENT-454,1COMPONENT-455,1COMPONENT-456,1COMPONENT-457,1COMPONENT-458",
   "1COMPONENT-459,1COMPONENT-460,1COMPONENT-461,1COMPONENT-462,1COMPONENT-463,1COMPONENT-464",
   "1COMPONENT-465,1COMPONENT-466,1COMPONENT-467,1COMPONENT-468,1COMPONENT-469,1COMPONENT-470",
   "1COMPONENT-471,1COMPONENT-472,1COMPONENT-473,1COMPONENT-474,1COMPONENT-475,1COMPONENT-476",
   "1COMPONENT-477,1COMPONENT-478,1COMPONENT-479,1COMPONENT-480,1COMPONENT-481,1COMPONENT-482",
   "1COMPONENT-483,1COMPONENT-484,1COMPONENT-485,1COMPONENT-486,1COMPONENT-487,1COMPONENT-488",
   "1COMPONENT-489,1COMPONENT-490,1COMPONENT-491,1COMPONENT-492,1COMPONENT-493,1COMPONENT-494",
   "1COMPONENT-495,1COMPONENT-496,1COMPONENT-497,1COMPONENT-498,1COMPONENT-499,1COMPONENT-500",
   "1COMPONENT-501,1COMPONENT-502,1COMPONENT-503,1COMPONENT-504,1COMPONENT-505,1COMPONENT-506",
   "1COMPONENT-507,1COMPONENT-508,1COMPONENT-509,1COMPONENT-510,1COMPONENT-511,1COMPONENT-512",
   "1COMPONENT-513,1COMPONENT-514,1COMPONENT-515,1COMPONENT-516,1COMPONENT-517,1COMPONENT-518",
   "1COMPONENT-519,1COMPONENT-520,1COMPONENT-521,1COMPONENT-522,1COMPONENT-523,1COMPONENT-524",
   "1COMPONENT-525,1COMPONENT-526,1COMPONENT-527,1COMPONENT-528,1COMPONENT-529,1COMPONENT-530",
   "1COMPONENT-531,1COMPONENT-532,1COMPONENT-533,1COMPONENT-534,1COMPONENT-535,1COMPONENT-536",
   "1COMPONENT-537,1COMPONENT-538,1COMPONENT-539,1COMPONENT-540,1COMPONENT-541,1COMPONENT-542",
   "1COMPONENT-543,1COMPONENT-544,1COMPONENT-545,1COMPONENT-546,1COMPONENT-547,1COMPONENT-548",
   "1COMPONENT-549,1COMPONENT-550,1COMPONENT-551,1COMPONENT-552,1COMPONENT-553,1COMPONENT-554",
   "1COMPONENT-555,1COMPONENT-556,1COMPONENT-557,1COMPONENT-558,1COMPONENT-559,1COMPONENT-560",
   "1COMPONENT-561,1COMPONENT-562,1COMPONENT-563,1COMPONENT-564,1COMPONENT-565,1COMPONENT-566",
   "1COMPONENT-567,1COMPONENT-568,1COMPONENT-569,1COMPONENT-570,1COMPONENT-571,1COMPONENT-572",
   "1COMPONENT-573,1COMPONENT-574,1COMPONENT-575,1COMPONENT-576,1COMPONENT-577,1COMPONENT-578",
   "1COMPONENT-579,1COMPONENT-580,1COMPONENT-581,1COMPONENT-582,1COMPONENT-583,1COMPONENT-584",
   "1COMPONENT-585,1COMPONENT-586,1COMPONENT-587,1COMPONENT-588,1COMPONENT-589,1COMPONENT-590",
   "1COMPONENT-591,1COMPONENT-592,1COMPONENT-593,1COMPONENT-594,1COMPONENT-595,1COMPONENT-596",
   "1COMPONENT-597,1COMPONENT-598,1COMPONENT-599,1COMPONENT-600,1COMPONENT-601,1COMPONENT-602",
   "1COMPONENT-603,1COMPONENT-604,1COMPONENT-605,1COMPONENT-606,1COMPONENT-607,1COMPONENT-608",
   "1COMPONENT-609,1COMPONENT-610,1COMPONENT-611,1COMPONENT-612,1COMPONENT-613,1COMPONENT-614",
   "1COMPONENT-615,1COMPONENT-616,1COMPONENT-617,1COMPONENT-618,1COMPONENT-619,1COMPONENT-620",
   "1COMPONENT-621,1COMPONENT-622,1COMPONENT-623,1COMPONENT-624,1COMPONENT-625,1COMPONENT-626",
   "1COMPONENT-627,1COMPONENT-628,1COMPONENT-629,1COMPONENT-630,1COMPONENT-631,1COMPONENT-632",
   "1COMPONENT-633,1COMPONENT-634,1COMPONENT-635,1COMPONENT-636,1COMPONENT-637,1COMPONENT-638",
   "1COMPONENT-639,1COMPONENT-640,1COMPONENT-641,1COMPONENT-642,1COMPONENT-643,1COMPONENT-644",
   "1COMPONENT-645,1COMPONENT-646,1COMPONENT-647,1COMPONENT-648,1COMPONENT-649,1COMPONENT-650",
   "1COMPONENT-651,1COMPONENT-652,1COMPONENT-653,1COMPONENT-654,1COMPONENT-655,1COMPONENT-656",
   "1COMPONENT-657,1COMPONENT-658,1COMPONENT-659,1COMPONENT-660,1COMPONENT-661,1COMPONENT-662",
   "1COMPONENT-663,1COMPONENT-664,1COMPONENT-665,1COMPONENT-666,1COMPONENT-667,1COMPONENT-668",
   "1COMPONENT-669,1COMPONENT-670,1COMPONENT-671,1COMPONENT-672,1COMPONENT-673,1COMPONENT-674",
   "1COMPONENT-675,1COMPONENT-676,1COMPONENT-677,1COMPONENT-678,1COMPONENT-679,1COMPONENT-680",
   "1COMPONENT-681,1COMPONENT-682,1COMPONENT-683,1COMPONENT-684,1COMPONENT-685,1COMPONENT-686",
   "1COMPONENT-687,1COMPONENT-688,1COMPONENT-689,1COMPONENT-690,1COMPONENT-691,1COMPONENT-692",
   "1COMPONENT-693,1COMPONENT-694,1COMPONENT-695,1COMPONENT-696,1COMPONENT-697,1COMPONENT-698",
   "1COMPONENT-699,1COMPONENT-700,1COMPONENT-701,1COMPONENT-702,1COMPONENT-703,1COMPONENT-704",
   "1COMPONENT-705,1COMPONENT-706,1COMPONENT-707,1COMPONENT-708,1COMPONENT-709,1COMPONENT-710",
   "1COMPONENT-711,1COMPONENT-712,1COMPONENT-713,1COMPONENT-714,1COMPONENT-715,1COMPONENT-716",
   "1COMPONENT-717,1COMPONENT-718,1COMPONENT-719,1COMPONENT-720,1COMPONENT-721,1COMPONENT-722",
   "1COMPONENT-723,1COMPONENT-724,1COMPONENT-725,1COMPONENT-726,1COMPONENT-727,1COMPONENT-728",
   "1COMPONENT-729,1COMPONENT-730,1COMPONENT-731,1COMPONENT-732,1COMPONENT-733,1COMPONENT-734",
   "1COMPONENT-735,1COMPONENT-736,1COMPONENT-737,1COMPONENT-738,1COMPONENT-739,1COMPONENT-740",
   "1COMPONENT-741,1COMPONENT-742,1COMPONENT-743,1COMPONENT-744,1COMPONENT-745,1COMPONENT-746",
   "1COMPONENT-747,1COMPONENT-748,1COMPONENT-749,1COMPONENT-750,1COMPONENT-751,1COMPONENT-752",
   "1COMPONENT-753,1COMPONENT-754,1COMPONENT-755,1COMPONENT-756,1COMPONENT-757,1COMPONENT-758",
   "1COMPONENT-759,1COMPONENT-760,1COMPONENT-761,1COMPONENT-762,1COMPONENT-763,1COMPONENT-764",
   "1COMPONENT-765,1COMPONENT-766,1COMPONENT-767,1COMPONENT-768,0KHITANulsxCHARACTER-#,=1d5,+231a",
   "0ljmqMINNANxb,3xc,3xd,3xe,+1,3TONE-7,3TONE-8,3NASALIZED TONE-1,4xb,4xc,4xd,4xe,+1,4TONE-7,4TONE-8,+1",
   "2ayE,0jpmqayYE,0HENTAIGANAmqA-1,2A-2,2A-3,2A-WO,2I-1,2I-2,2I-3,2I-4,2U-1,2U-2,2U-3,2U-4,2U-5,2E-2",
   "2E-3,2E-4,2E-5,2E-6,2O-1,2O-2,2O-3,2KA-1,2KA-2,2KA-3,2KA-4,2KA-5,2KA-6,2KA-7,2KA-8,2KA-9,2KA-10",
   "2KA-11,2KA-KE,2KI-1,2KI-2,2KI-3,2KI-4,2KI-5,2KI-6,2KI-7,2KI-8,2KU-1,2KU-2,2KU-3,2KU-4,2KU-5,2KU-6",
   "2KU-7,2KE-1,2KE-2,2KE-3,2KE-4,2KE-5,2KE-6,2KO-1,2KO-2,2KO-3,2KO-KI,2SA-1,2SA-2,2SA-3,2SA-4,2SA-5",
   "2SA-6,2SA-7,2SA-8,2SI-1,2SI-2,2SI-3,2SI-4,2SI-5,2SI-6,2SU-1,2SU-2,2SU-3,2SU-4,2SU-5,2SU-6,2SU-7",
   "2SU-8,2SE-1,2SE-2,2SE-3,2SE-4,2SE-5,2SO-1,2SO-2,2SO-3,2SO-4,2SO-5,2SO-6,2SO-7,2TA-1,2TA-2,2TA-3",
   "2TA-4,2TI-1,2TI-2,2TI-3,2TI-4,2TI-5,2TI-6,2TI-7,2TU-1,2TU-2,2TU-3,2TU-4,2TU-TO,2TE-1,2TE-2,2TE-3",
   "2TE-4,2TE-5,2TE-6,2TE-7,2TE-8,2TE-9,2TO-1,2TO-2,2TO-3,2TO-4,2TO-5,2TO-6,2TO-RA,2NA-1,2NA-2,2NA-3",
   "2NA-4,2NA-5,2NA-6,2NA-7,2NA-8,2NA-9,2NI-1,2NI-2,2NI-3,2NI-4,2NI-5,2NI-6,2NI-7,2NI-TE,2NU-1,2NU-2",
   "2NU-3,2NE-1,2NE-2,2NE-3,2NE-4,2NE-5,2NE-6,2NE-KO,2NO-1,2NO-2,2NO-3,2NO-4,2NO-5,2HA-1,2HA-2,2HA-3",
   "2HA-4,2HA-5,2HA-6,2HA-7,2HA-8,2HA-9,2HA-10,2HA-11,2HI-1,2HI-2,2HI-3,2HI-4,2HI-5,2HI-6,2HI-7,2HU-1",
   "2HU-2,2HU-3,2HE-1,2HE-2,2HE-3,2HE-4,2HE-5,2HE-6,2HE-7,2HO-1,2HO-2,2HO-3,2HO-4,2HO-5,2HO-6,2HO-7",
   "2HO-8,2MA-1,2MA-2,2MA-3,2MA-4,2MA-5,2MA-6,2MA-7,2MI-1,2MI-2,2MI-3,2MI-4,2MI-5,2MI-6,2MI-7,2MU-1",
   "2MU-2,2MU-3,2MU-4,2ME-1,2ME-2,2ME-MA,2MO-1,2MO-2,2MO-3,2MO-4,2MO-5,2MO-6,2YA-1,2YA-2,2YA-3,2YA-4",
   "2YA-5,2YA-YO,2YU-1,2YU-2,2YU-3,2YU-4,2YO-1,2YO-2,2YO-3,2YO-4,2YO-5,2YO-6,2RA-1,2RA-2,2RA-3,2RA-4",
   "2RI-1,2RI-2,2RI-3,2RI-4,2RI-5,2RI-6,2RI-7,2RU-1,2RU-2,2RU-3,2RU-4,2RU-5,2RU-6,2RE-1,2RE-2,2RE-3",
   "2RE-4,2RO-1,2RO-2,2RO-3,2RO-4,2RO-5,2RO-6,2WA-1,2WA-2,2WA-3,2WA-4,2WA-5,2WI-1,2WI-2,2WI-3,2WI-4",
   "2WI-5,2WE-1,2WE-2,2WE-3,2WE-4,2WO-1,2WO-2,2WO-3,2WO-4,2WO-5,2WO-6,2WO-7,2N-MU-MO-1,2N-MU-MO-2",
   "0jpmqayWU,0ljmqayYI,3YE,3WU,+2d,0jpmqulWI,3WE,3WO,+11,0ljmqulWI,3WE,3WO,3N,+8,0NUSHU CHARACTER-#",
   "=18b,+904,0DUPLOYANmqH,2X,2P,2T,2F,2K,2L,2B,2D,2V,2G,2R,2P N,2D S,2F N,2K M,2R S,2TH,2SLOAN DH,2DH",
   "2KK,2SLOAN J,2HL,2LH,2RH,2M,2N,2J,2S,2M N,2N M,2J M,2S J,2Mzefo,2Nzefo,2Jzefo,4fqkjapac,2Szefo,5bs",
   "2M S,2N S,2J S,2S S,2M N S,2N M S,2J M S,2S J S,2J Szefo,3N,4S,2S T,4R,3P,4R,2T S,3R S,2W,2WH,2W R",
   "2S N,3M,2K R S,2G R S,2S K,4R,2A,2SLOAN OW,2OA,2O,2AOU,2I,2E,2IE,2tvI,2UI,2EE,2SLOAN EH,2ROMANIAN I",
   "2SLOAN EE,2mxI,2YE,2U,2EU,2XW,2U N,2mxU,2ROMANIAN U,2UH,2SLOAN U,2OOH,2OW,2OU,2WA,2WO,2WI,2WEI,2WOW",
   "2NASAL U,3O,3I,3A,2PERNIN AN,3AM,2SLOAN EN,3AN,3ON,2ysM,+5,1AFFIXmgjtsy,2MIDjtsy,2rzjtsy,2naynsy",
   "2MIDynsy,2jnynsy,2bfsy,3mksy,3TANGENT,3vw,3Ejs,3Ijs,3TANGENTjs,+3,2jnae,3TIGHTae,3io,3mxio,3fo,3dh",
   "3mt,3yy,3yn,+7,2naae,3TIGHTae,3io,3mxio,3fo,3dh,3mt,3yy,3yn,3ba,+2,1uaOzeec,1THICKmqSELECTOR,1fsnk",
   "1rcCHINOOKicvd,0SHORTHAND FORMATmqOVERLAP,2CONTINUING OVERLAP,2fvSTEP,2UP STEP,+125c",
   "0ZNAMENNYdqnkGORAZDO NIZKO SlwONmg,3NIZKO SlwONmg,3TSATA ONmg,3GORAZDO NIZKO ONmg,3NIZKO ONmg",
   "3SREDNE ONmg,3MALOquONmg,3quONmg,3VYSOKO ONmg,3MALOquSlpONmg,3quSlpONmg,3VYSOKO SlpONmg",
   "3GORAZDO NIZKO SlwONrz,3NIZKO SlwONrz,3TSATA ONrz,3GORAZDO NIZKO ONrz,3NIZKO ONrz,3SREDNE ONrz",
   "3MALOquONrz,3quONrz,3VYSOKO ONrz,3MALOquSlpONrz,3quSlpONrz,3VYSOKO SlpONrz,3TSATA Slw,3MALOquSlw",
   "3STRANNO MALOqu,3quSlw,4STRANNO,3VYSOKO Slw,3MALOquSTRANNO,3GORAZDO VYSOKO,3ZELO,3ON,3RAVNO,3TIKHAYA",
   "3BORZAYA,3UDARKA,3PODVERTKA,3LOMKA,3KUPNAYA,3KACHKA,3ZEVOK,3SKOBA,3RAZSEKA,3KRYZH ONmg,+2",
   "2TONAL RANGEnkMRACHNO,5SVETLO,5TRESVETLO,2nkZADERZHKA,3DEMESTVENNY ZADERZHKA,3OTSECHKA,3PODCHASHIE",
   "4zeynvf,3CHASHKA,4POLNAYA,3OBLACHKO,3SOROCHYA NOZHKA,3TOCHKA,3DVOETOCHIE,2ATTACHINGynOMET,2nkekOMET",
   "3KRYZH,2nbTONAL RANGEkg,1PRIZNAKnwLEVEL-2,3LEVEL-3,3DIRECTION FLIP,3KRYZH,3ROG,+9,1NEUME KRYUK",
   "3TIKHY,2PARAKLIT,2DVA V CHELNU,2KLYUCH,2ZANOZHEK,2STOPITSA,3S OCHKOM,2PEREVODKA,3ol",
   "2STOPITSAzeSOROCHYA NOZHKA,2CHELYUSTKA,2PALKA,2zs,2GOLUBCHIK BORZY,3TIKHY,3MRACHNY,3SVETLY",
   "3TRESVETLY,2VRAKHIYA PROSTAYA,3MRACHNAYA,3vr,3xj,3lsPROSTAYA,4MRACHNAYA,4vr,4xj,2fszs,2rtCHELYUSTKA",
   "2DERBITSA,2KHAMILO,2CHASHKA,2PODCHASHIE,2SKAMEYTSA MRACHNAYA,3vr,3xj,3TIKHAYA,2DEMESTVENNY KLYUCH",
   "2SKAMEYTSAlsvr,3KLYUCHENEPOSTOYANNAYA,3lsTIKHAYA,3DVOECHELNAYA PROSTAYA,4vr,4ol,4ls,2SLOZHITIE,3Szt",
   "3ZAKRYTOE,3Slw,2KRYZH,2ROG,2FITA,2KOBYLA,2ZMEYTSA,2STATYA,3Szt,4lw,4ztIlw,4lwIzt,3ZAKRYTAYA,4Szt",
   "3S ROGOM,4DVUMYA ZAPYATYMI,4ztI PODCHASHIEM,2POLKULIZMY,2STATYAol,2STRELA PROSTAYA,3MRACHNOTIKHAYA",
   "3KRYZHEVAYA,3POLUPOVODNAYA,3POVODNAYA,3ol,3KLYUCHEPOVODNAYA,3KLYUCHENEPOSTOYANNAYA,3TIKHAYA PUTNAYA",
   "3DVOECHELNAYA,3DVOECHELNOKRYZHEVAYA,3DVOECHELNOPOVODNAYA,3DVOECHELNAYAls,3DVOECHELNOPOVODNAYAls",
   "3GROMNAYAzeudzs,3irzeudzs,3GROMNAYA,3ir,4zefszs,3GROMOKRYZHEVAYA,4POVODNAYA,2MECHIK,3POVODNY",
   "3KLYUCHEVOY,3KLYUCHEPOVODNY,3KLYUCHENEPOSTOYANNY,2STRELA TRYASOGLASNAYA,3TRYASOPOVODNAYA",
   "3TRYASOSTRELNAYA,2OSOKA,3vr,3xj,3KRYUKOVAYAvr,3lsvr,4ol,2STRELA KRYUKOVAYA,4POVODNAYA",
   "4GROMNAYAzeudzs,4irzeudzs,4GROMNAYA,4ir,5zefszs,4GROMOKRYZHEVAYA,5POVODNAYA,4TRYASKA,2KUFISMA",
   "2OBLAKO,2DUDA,2NEMKA,2PAUK"]

end SdkGen.Text.Table
