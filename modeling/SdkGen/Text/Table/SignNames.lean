/-!
# Names of signs

The names of the characters from 2000 up to 9FFF, which are mostly signs. The rows are read
by `CharacterName.find?`.
-/

namespace SdkGen.Text.Table

/-- The names of the characters from 2000 up to 9FFF, which are mostly signs. -/
def signNames : List String :=
  ["0ENre,0EMre,0ENur,0EMur,0THREE-PER-EMur,0FOUR-PER-EMur,0SIX-PER-EMur,0FIGUREur,0rcur,0THINur,0HAIRur",
   "0zvWIDTHur,2NON-JOINER,2lc,0mknk,0sdnk,0jx,0NON-BREAKINGjx,0FIGUREer,0ENer,0EMer,0jtbo,0fsynmt,1namt",
   "0mgudrlnk,0rzudrlnk,0udLOW-9rlnk,1HIGH-REVERSED-9rlnk,0mgfsrlnk,0rzfsrlnk,0fsLOW-9rlnk",
   "1HIGH-REVERSED-9rlnk,0DAGGER,0fsDAGGER,0ck,0xmck,0pofoLEADER,0yafoLEADER,0jtgk,0HYPHENATIONqr,0mttf",
   "0qdtf,0mkEMBEDDING,0sdEMBEDDING,0POP DIRECTIONAL FORMATTING,0mkOVERRIDE,0sdOVERRIDE",
   "0NARROW NO-BREAKur,0PER MILLEua,1wfwsua,0qx,0fsqx,0xnqx,0rtqx,1fsqx,1xnqx,0cq,0udmiaqrlnk,1sbaqrlnk",
   "0REFERENCEnk,0fsgvnk,0km,0py,0UNDERTIE,0czTIE,0cqINSERTIONqr,0ASTERISM,0jxck,0iauk,0mguwchzeQUILL",
   "0rzuwchzeQUILL,0fsrknk,0rkgvnk,0gvrknk,0TIRONIANuaET,0rtPILCROWua,0cbmlck,1seck,0nabe,0rttd",
   "0CLOSE UP,0yaASTERISKS ALIGNEDyo,0dsnvua,0SWUNGer,0kpUNDERTIE,0FLOWERrcnk,0wuforc,0rgqx,0hyforc",
   "0hqforc,0yaforc,0hyfonk,0frec,0TRICOLON,0ynhyfq,0npnmur,0zglc,0FUNCTION APPLICATION,0INVISIBLEwz,1tf",
   "1qq,+1,0mkISOLATE,0sdISOLATE,0hoSTRONG ISOLATE,0POP DIRECTIONAL ISOLATE,0INHIBIT SYMMETRIC SWAPPING",
   "0ACTIVATE SYMMETRIC SWAPPING,0INHIBITawhvSHAPING,0ACTIVATEawhvSHAPING,0NATIONALfhSHAPES",
   "0NOMINALfhSHAPES,0vozv,1meulmqI,+2,1hy,1hq,1uf,1tg,1gc,1oq,1qqua,1nv,1gpua,1mgqf,1rzqf,1meulmqN",
   "0vjzv,1po,1ya,1wu,1hy,1hq,1uf,1tg,1gc,1oq,1qqua,1nv,1gpua,1mgqf,1rzqf,+1,0mevjulmqA,4E,4O,4X,4sv,4H",
   "4K,4L,4M,4N,4P,4S,4T,+3,0EURO-CURRENCYua,0dpua,0CRUZEIROua,0FRENCH FRANCua,0LIRAua,0MILLua,0NAIRAua",
   "0PESETAua,0RUPEEua,0WONua,0NEW SHEQELua,0DONGua,0EUROua,0KIPua,0TUGRIKua,0DRACHMAua,0GERMAN PENNYua",
   "0PESOua,0GUARANIua,0AUSTRALua,0HRYVNIAua,0CEDIua,0LIVRE TOURNOISua,0SPESMILOua,0TENGEua",
   "0INDIAN RUPEEua,0TURKISH LIRAua,0NORDICnkua,0MANATua,0RUBLEua,0LARIua,0BITCOINua,0SOMua,+f,0dqmgjgac",
   "1rzjgac,1mxynmtpx,1tvynmtpx,1arbaac,1dmbaac,1mgbaac,1rzbaac,1sfpx,1dmsfpx,1arsfpx,1wufqac,1hyfqac",
   "1ENCLOSINGdh,2uw,2fe,2dhbk,1mgrzbaac,1ENCLOSING SCREEN,2KEYCAP,2UPWARDqtxk,1rsuopx,1fsynvfpx",
   "1ANNUITYvt,1xnUNDERDOT,1WIDE BRIDGEac,1mlbapx,1mxfsuopx,1sejgzebpfx,1mljgzebpfx,1mgbabs,1rzbabs",
   "1beac,+f,0ACCOUNT OF,0ADDRESSED TOwiSUBJECT,0fucpC,0DEGREE CELSIUS,0cwmtvt,0CARE OF,0CADA UNA",
   "0EULER CONSTANT,0SCRUPLE,0DEGREE FAHRENHEIT,0sxulG,1cpH,0cccpH,0fucpH,0PLANCK CONSTANT,2pvyaPI",
   "0sxcpI,0cccpI,0sxcpL,1ulL,0L Bbovt,0fucpN,0NUMEROua,0upRECORDING COPYRIGHT,0sxcpP,0fucpP,2Q,0sxcpR",
   "0cccpR,0fucpR,0PRESCRIPTION TAKE,0RESPONSE,0SERVICEnk,0weua,0TRADEnkua,0VERSICLE,0fucpZ,0OUNCEua",
   "0OHMua,0kpOHMua,0cccpZ,0xuiqulmqkq,0KELVINua,0ANGSTROMua,0sxcpB,0cccpC,0ESTIMATEDvt,0sxulE,1cpE,2F",
   "0xucpF,0sxcpM,1ulO,0ahvt,0BETvt,0ilvt,0DALETvt,0INFORMATION SOURCE,0sicpQ,0FACSIMILEua,0fuulPI,2id",
   "1cpid,2PI,1N-ARY SUMMATION,0xustcpG,3L,0rtstcpL,0xustcpY,0fukucpD,2ulD,3E,3I,3J,0PROPERTYmt,0xuao",
   "0PERua,0AKTIESELSKAB,0xuulF,0vthuSAMARITAN SOURCE,0VULGARiapoSEVENTH,3NINTH,3TENTH,3wn,2yawo",
   "2poFIFTH,2yaFIFTHS,2wuFIFTHS,2hyFIFTHS,2poSIXTH,2hqSIXTHS,2poge,2wugf,2hqgf,2tggf,0iaNUMERATORpo",
   "0ROMANpfpo,2ya,2wu,2hy,2hq,2uf,2tg,2gc,2oq,2wf,2gj,2xx,2hg,2pojw,2hqjw,2pows,0ulROMANpfpo,3ya,3wu",
   "3hy,3hq,3uf,3tg,3gc,3oq,3wf,3gj,3xx,3hg,3pojw,3hqjw,3pows,0ROMANpfpowsC D,2hqws,2wfws,2rtpojw",
   "0meulmqrtC,0ROMANpfufLATEhv,2hgEARLYhv,3ws,2pojwws,0VULGARiazvwo,0xufhya,2wu,+4,0mlba,0yjba,0seba",
   "0fxba,0mgrzba,0UPfvba,0owzaba,1gaba,0uqgaba,1zaba,0mlbazevf,0sebazevf,0mlyyba,0seyyba,0mlyaHEADEDba",
   "0yjyaHEADEDba,0seyaHEADEDba,0fxyaHEADEDba,0mlbazevw,0sebazevw,0mlbaibbo,0yjbaibbo,0sebaibbo",
   "0fxbaibbo,0UPfvbazeBASE,0mlbazejs,0sebazejs,0mlbazemz,0sebazemz,0mgrzyyba,2bazevf,0fxzzba",
   "0yjbazeTIPml,4se,0fxbazeTIPml,4se,0sebazedzfx,0fxbazedzml,0arxhtcba,0dmxhtcba,0owzabaTOmxbo",
   "0mlbaTObopvsebaTObo,0arppdhba,0dmppdhba,0mljgzebpyj,4fx,0yjjgzebpse,4ml,0sejgzebpyj,4fx,0fxjgzebpse",
   "4ml,0sebapvmlba,0yjbamlOFfxba,0mlbapvseba,1qabc,0yjqabc,0seqabc,0fxqabc,0mljgpvsejg,0sejgpvmljg",
   "0mlfsbazevf,0mgrzfsbazevf,0sefsbazevf,0mlfsba,0yjfsba,0sefsba,0fxfsba,0mgrzfsba,0UPfvfsba,0owzafsba",
   "1gafsba,0uqgafsba,1zafsba,0mlxnba,0sexnba,0mlSQUIGGLEba,0seSQUIGGLEba,0yjbazefsvf,0fxbazefsvf",
   "0mlesba,0yjesba,0seesba,0fxesba,0mlbaTObo,0sebaTObo,0mlzcba,0yjzcba,0sezcba,0fxzcba,0yjzcbaibbo",
   "3ON PEDESTAL,5zejtbo,6ynbo,2fsba,4ON PEDESTAL,0sezcbaibyw,0owzabaTOdz,0uqgabaTOdz,0UPfvzcba",
   "0rzbazeuldh,0fxbamlOFyjba,0wusebc,0mlbazeynvf,0sebazeynvf,0mgrzbazeynvf,0mlbazefsynvf,0sebazefsynvf",
   "0mgrzbazefsynvf,0mlOPEN-HEADEDba,0seOPEN-HEADEDba,0mgrzOPEN-HEADEDba,0huALL,0COMPLEMENT,0qhfg",
   "0THERE EXISTS,1DOESoxEXIST,0EMPTY SET,0INCREMENT,0NABLA,0giOF,0oxANgiOF,0ulgiOF,0dxAS MEMBER",
   "0DOESoxCONTAIN AS MEMBER,0uldxAS MEMBER,0glOF PROOF,0N-ARYqy,1COPRODUCT,1SUMMATION,0nvua",
   "0MINUS-OR-PLUSua,0foqq,0fluk,0SETnv,0bepq,0sfpq,0ckpq,0uwROOT,0CUBE ROOT,0FOURTH ROOT",
   "0PROPORTIONAL TO,0kh,0rzaq,0aq,0MEASUREDaq,0SPHERICALaq,0DIVIDES,0DOESoxDIVIDE,0qeTO,0oxqeTO,0mwap",
   "1OR,0kn,0ye,0kl,0fskl,0xnkl,0CONTOURkl,0SURFACEkl,0VOLUMEkl,0dmkl,1CONTOURkl,0arCONTOURkl,0THEREFORE",
   "0BECAUSE,0RATIO,0PROPORTION,0fonv,0EXCESS,0GEOMETRIC PROPORTION,0HOMOTHETIC,0wypq,0rtwy,0kpLAZY S",
   "0SINEyy,0WREATHqy,0oxwy,0nvwy,0ASYMPTOTICALLYgoTO,0oxASYMPTOTICALLYgoTO,0avgoTO,1BUToxACTUALLYgoTO",
   "0NEITHERavNOR ACTUALLYgoTO,0ajgoTO,0oxajgoTO,0ajgoORgoTO,0xnwy,0ALLgoTO,0gsTO,0GEOMETRICALLYgsTO",
   "0DIFFERENCEbx,0APPROACHESwiLIMIT,0GEOMETRICALLYgoTO,0avgoTO ORwikdOF,0kdOF ORavgoTO,0dpgp,0gpdp",
   "0sfINgoTO,1goTO,0CORRESPONDS TO,0ESTIMATES,0EQUIANGULAR TO,0vbgp,0exgoTO,0goTO BY DEFINITION",
   "0MEASURED BY,0QUESTIONEDgoTO,0oxgoTO,0IDENTICAL TO,0oxIDENTICAL TO,0STRICTLYgsTO,0mpORgoTO,0ipORgoTO",
   "0mppvgoTO,0ippvgoTO,0mpBUToxgoTO,0ipBUToxgoTO,0MUCHmp,1ip,0bx,0oxgsTO,1mp,1ip,0NEITHERmpNORgoTO",
   "1ipNORgoTO,0mpORgsTO,0ipORgsTO,0NEITHERmpNORgsTO,1ipNORgsTO,0mpORip,0ipORmp,0NEITHERmpNORip,1ipNORmp",
   "0qw,0vn,0qwORgoTO,0vnORgoTO,0qwORgsTO,0vnORgsTO,0DOESoxPRECEDE,2SUCCEED,0vkOF,0vpOF,0oxAvkOF,2vpOF",
   "0vkOF ORgoTO,0vpOF ORgoTO,0NEITHER AvkOF NORgoTO,2vpOF NORgoTO,0vkOFzeoxgoTO,0vpOFzeoxgoTO,0MULTISET",
   "1of,1ye,0uwkdOF,1ORIGINAL OF,1kdOF ORgoTO,1ORIGINAL OF ORgoTO,1CAP,1CUP,0diqq,1nv,1wz,1fluk,1fopq",
   "1sfpq,1bepq,1gp,1er,0uxqq,1nv,1wz,1fopq,0rzvu,0mgvu,0fvvu,0UPvu,0ASSERTION,0MODELS,0TRUE,0FORCES",
   "0xnynborzxv,0fsynbofsrzxv,0DOESoxPROVE,0oxTRUE,0DOESoxFORCE,0NEGATEDfsynbofsrzxv,0qwycRELATION",
   "0vnycRELATION,0ovvgOF,0dxASovvg,0ovvgOF ORgoTO,0dxASovvgORgoTO,0ORIGINAL OF,0kdOF,0MULTIMAP",
   "0HERMITIAN CONJUGATE MATRIX,0INTERCALATE,0XOR,0NAND,0NOR,0rzaqzeARC,1xk,0N-ARYmwap,2OR,1kn,1ye,0fepq",
   "0fopq,0vbpq,0flwz,0BOWTIE,0mgovFACTORteqy,0rzovFACTORteqy,0mgteqy,0rzteqy,0rtwygp,0eimwOR,2ap,0fsvk",
   "1vp,1kn,1ye,0PITCHFORK,0goapqeTO,0mpzefo,0ipzefo,0ypMUCHmp,2ip,0mpgoTO ORip,0ipgoTO ORmp,0goTO ORmp",
   "3ip,3qw,3vn,0DOESoxPRECEDE ORgo,2SUCCEED ORgo,0oxuwkdOF ORgoTO,2ORIGINAL OF ORgoTO,0uwkdOF ORoxgoTO",
   "1ORIGINAL OF ORoxgoTO,0mpBUToxgsTO,0ipBUToxgsTO,0qwBUToxgsTO,0vnBUToxgsTO,0oxovvgOF",
   "0DOESoxCONTAIN ASovvg,0oxovvgOF ORgoTO,0DOESoxCONTAIN ASovvgORgo,0yngk,0MIDLINEjtgk,0UPrzfbgk",
   "0fvrzfbgk,0giOFzemxjtvf,3ynboATglOFjtvf,0ulgiOFzeynboATglOFjtvf,0giOFzefoac,3pw,0ulgiOFzepw",
   "0giOFzeyd,3yajtSTROKES,0dxzemxjtvf,2ynboATglOFjtvf,0uldxzeynboATglOFjtvf,0dxzepw,0uldxzepw",
   "0ZoyBAG MEMBERSHIP,0DIAMETERua,0ELECTRICba,0HOUSE,0UPbb,0fvbb,0PROJECTIVE,0PERSPECTIVE,0WAVYmt,0mgcu",
   "0rzcu,0mghs,0rzhs,0cfrzCROP,1mgCROP,0xhrzCROP,1mgCROP,0rtoxua,0uwnc,0ARC,0SEGMENT,0SECTOR",
   "0weRECORDER,0POSITIONkg,0VIEWDATAuw,0PLACE OF INTERESTua,0xuoxua,0WATCH,0HOURGLASS,0xhmgdz,1rzdz",
   "0cfmgdz,1rzdz,0xhiukl,0cfiukl,0FROWN,0SMILE,0UPbbbxyajtBARS,0OPTION KEY,0ERASE TOwirz,0X IN Arncg",
   "0KEYBOARD,0miaqch,0sbaqch,0ERASE TOwimg,0BENZENEsf,0CYLINDRICITY,0ALL AROUND-PROFILE,0SYMMETRY",
   "0TOTAL RUNOUT,0DIMENSION ORIGIN,0CONICAL TAPER,0SLOPE,0COUNTERBORE,0COUNTERSINK",
   "0APL FUNCTIONALvtI-BEAM,3SQUISHre,3rego,4DIVIDE,4fe,4JOT,4dh,3dhSTILE,4JOT,3ukbo,3bkbo,3reuk,4bk,4mp",
   "4ip,3mlVANE,3seVANE,3remlba,4seba,3dhbk,3fvvuyd,3exSTILE,3refvcq,4ex,3fvvuJOT,3yjVANE,3reyjba",
   "3UPvupw,3DEL STILE,3reUPcq,4DEL,3UPvuJOT,3fxVANE,3refxba,3QUOTEyd,3exyd,3feyd,3JOTyd,3dhyd",
   "3UP SHOE JOT,3QUOTEre,3dhvb,3redp,3UPvufa,3DELfa,3vbfa,3JOTfa,3dhfa,3fvSHOE STILE,3mgSHOE STILE",
   "3wyfa,3ipfa,3drbo,3DELwy,3ZILDE,3STILEwy,3tdyd,3reoxgo,4rk,3fvcqwy,3UPcqwy,3kq,3ru,3pm,3alyd,3gnyd",
   "3kqyd,3pmyd,3al,0oxdcnk,0rzaqzefxzzba,0SHOULDEREDppcg,0BELLvt,0ynmtzensfo,0INSERTIONvt",
   "0CONTINUOUS UNDERLINEvt,0DISCONTINUOUS UNDERLINEvt,0EMPHASISvt,0COMPOSITIONvt,0zcuwzecwynmt,0ENTERvt",
   "0ALTERNATIVE KEYvt,0HELMvt,0dijtbozeNOTCH,1xkfv,0BROKENdhzeNORTHWESTba,0UNDOvt,0MONOSTABLEvt",
   "0HYSTERESISvt,0OPEN-CIRCUIT-OUTPUT H-TYPEvt,1L-TYPEvt,0PASSIVE-PULL-DOWN-OUTPUTvt",
   "0PASSIVE-PULL-UP-OUTPUTvt,0DIRECT CURRENTvthvya,0SOFTWARE-FUNCTIONvt,0APL FUNCTIONALvtre",
   "0DECIMALtfKEYvt,0PREVIOUS PAGE,0NEXT PAGE,0PRINT SCREENvt,0CLEAR SCREENvt,0mgqfyhjs,2gx,2nbjs",
   "0rzqfyhjs,2gx,2nbjs,0mguwchyhdz,3gx,3nbdz,0rzuwchyhdz,3gx,3nbdz,0mgeichyhjs,3nsPIECE,3nbjs,0eichgx",
   "0rzeichyhjs,3nsPIECE,3nbjs,0klgx,0jtmtgx,0yhmgORnbrzeichta,1rzORnbmgeichta,0SUMMATIONxh,1cf,0xhuwch",
   "0cfuwch,3pvxhuwch,0RADICALvtcf,0mgyncgmt,0rzyncgmt,0jtSCAN LINE-1,2LINE-3,2LINE-7,2LINE-9",
   "0DENTISTRYvtmsynapxhrz,5cfrz,4zedh,3fvapjtzedh,3UPapjtzedh,3ynzexk,3fvapjtzexk,3UPapjtzexk,3ynapyy",
   "3fvapjtzeyy,3UPapjtzeyy,3fvapjt,3UPapjt,3ynapxhmg,5cfmg,0uwFOOT,0RETURNvt,0EJECTvt,0ynmtgx",
   "0METRICALci,1mxpvtv,1tvpvmx,1mxpvyaSHORTS,1yaSHORTSpvmx,3JOINED,1TRISEME,1TETRASEME,1PENTASEME",
   "0fzGROUND,0FUSE,0xhqf,0cfqf,0xheich,0cfeich,0xhxitsch,0cfxitsch,0zcTRAPEZIUM,0BENZENEsfzedh",
   "0STRAIGHTNESS,0FLATNESS,0AC CURRENT,0ELECTRICALkn,0DECIMAL EXPONENTvt,0cbsbfsxk,1mifsxk,1yffsxk",
   "1fwfsxk,1sbfsxkzeynbo,1mifsxkzeynbo,1sbxkzefsynbo,0ALARM CLOCK,0STOPWATCH,0TIMER CLOCK",
   "0HOURGLASSzeFLOWING SAND,0cbnpmixk,2sbxk,2yfxk,2fwxk,0fsynbo,0cbuwhuvd,1dhhuRECORD,0POWERvt",
   "1ON-OFFvt,1ONvt,1SLEEPvt,0OBSERVER EYEvt,0vthuNULL,2START OF HEADING,4TEXT,2glOF TEXT,4TRANSMISSION",
   "2ENQUIRY,2ACKNOWLEDGE,2BELL,2BACKSPACE,2jtTABULATION,2mtFEED,2ynTABULATION,2hvFEED,2CARRIAGE RETURN",
   "2SHIFT OUT,3IN,2DATA LINK ESCAPE,2DEVICE CONTROLpo,4ya,4wu,4hy,2ojACKNOWLEDGE,2SYNCHRONOUS IDLE",
   "2glOF TRANSMISSIONcd,2CANCEL,2glOFnp,2SUBSTITUTE,2ESCAPE,2FILEtf,2GROUPtf,2RECORDtf,2UNITtf,2ur",
   "2DELETE,0BLANKvt,0ppcg,0vthuNEWLINE,2DELETEhvya,2SUBSTITUTEhvya,+19,0OCRjs,1CHAIR,1FORK,1kpFORK",
   "1BELT BUCKLE,1BOW TIE,1BRANCH BANK IDENTIFICATION,1AMOUNT OFdc,1er,1CUSTOMER ACCOUNTpe,1fsbk,+15",
   "0difhpo,2ya,2wu,2hy,2hq,2uf,2tg,2gc,2oq,1pewf,2gj,2xx,2wp,2hz,2hf,2ug,2th,2gd,2or,2xy,0qgfhpo,2ya",
   "2wu,2hy,2hq,2uf,2tg,2gc,2oq,1pewf,2gj,2xx,2wp,2hz,2hf,2ug,2th,2gd,2or,2xy,0fhpoicvd,1yaicvd,1wuicvd",
   "1hyicvd,1hqicvd,1uficvd,1tgicvd,1gcicvd,1oqicvd,0pewficvd,1gjicvd,1xxicvd,1wpicvd,1hzicvd,1hficvd",
   "1ugicvd,1thicvd,1gdicvd,1oricvd,1xyicvd,0qgmeulmqA,4B,4C,4D,4E,4F,4G,4H,4I,4J,4K,4L,4M,4N,4O,4P,4Q",
   "4R,4S,4T,4U,4V,4W,4X,4Y,4Z,0dimecpmqA,4B,4C,4D,4E,4F,4G,4H,4I,4J,4K,4L,4M,4N,4O,4P,4Q,4R,4S,4T,4U,4V",
   "4W,4X,4Y,4Z,2ulmqA,4B,4C,4D,4E,4F,4G,4H,4I,4J,4K,4L,4M,4N,4O,4P,4Q,4R,4S,4T,4U,4V,4W,4X,4Y,4Z,1fhzv",
   "0ojdipegj,3xx,3wp,3hz,3hf,3ug,3th,3gd,3or,3xy,0fsdifhpo,3ya,3wu,3hy,3hq,3uf,3tg,3gc,3oq,2pewf",
   "0ojdifhzv,0cgDRAWINGSmsjt,2jkjt,2msyn,2jkyn,2msxnerjt,2jkxnerjt,2msxneryn,2jkxneryn,2msrgerjt",
   "2jkrgerjt,2msrgeryn,2jkrgeryn,2msfvaprz,2fvmsaprzjk,3jkaprzms,2jkfvaprz,2msfvapmg,2fvmsapmgjk",
   "3jkapmgms,2jkfvapmg,2msUPaprz,2UPmsaprzjk,3jkaprzms,2jkUPaprz,2msUPapmg,2UPmsapmgjk,3jkapmgms",
   "2jkUPapmg,2msynaprz,2ynmsaprzjk,2UPjkaprzfvms,2fvjkaprzUPms,2ynjkaprzms,2fvmsaprzUPjk,2UPmsaprzfvjk",
   "2jkynaprz,2msynapmg,2ynmsapmgjk,2UPjkapmgfvms,2fvjkapmgUPms,2ynjkapmgms,2fvmsapmgUPjk,2UPmsapmgfvjk",
   "2jkynapmg,2msfvapjt,2mgjkaprzfvms,2rzjkapmgfvms,2fvmsapjtjk,3jkapjtms,2rzmsapmgfvjk,2mgmsaprzfvjk",
   "2jkfvapjt,2msUPapjt,2mgjkaprzUPms,2rzjkapmgUPms,2UPmsapjtjk,3jkapjtms,2rzmsapmgUPjk,2mgmsaprzUPjk",
   "2jkUPapjt,2msynapjt,2mgjkaprzynms,2rzjkapmgynms,2ynmsapjtjk,2UPjkapfvjtms,2fvjkapUPjtms,2ynjkapjtms",
   "2mgUPjkaprzfvms,2rzUPjkapmgfvms,2mgfvjkaprzUPms,2rzfvjkapmgUPms,2fvmsapUPjtjk,2UPmsapfvjtjk",
   "2rzmsapmgynjk,2mgmsaprzynjk,2jkynapjt,2msfserjt,2jkfserjt,2msfseryn,2jkfseryn,2fsjt,3yn,2fvudaprzfs",
   "3fsaprzud,2fsfvaprz,2fvudapmgfs,3fsapmgud,2fsfvapmg,2UPudaprzfs,3fsaprzud,2fsUPaprz,2UPudapmgfs",
   "3fsapmgud,2fsUPapmg,2ynudaprzfs,3fsaprzud,2fsynaprz,2ynudapmgfs,3fsapmgud,2fsynapmg,2fvudapjtfs",
   "3fsapjtud,2fsfvapjt,2UPudapjtfs,3fsapjtud,2fsUPapjt,2ynudapjtfs,3fsapjtud,2fsynapjt,2msARCfvaprz,6mg",
   "4UPapmg,6rz,3fbyhrzTOnbmg,5mgTOnbrz,4ec,3mg,3UP,3rz,3fv,2jkmg,3UP,3rz,3fv,2msmgapjkrz,3UPapjkfv",
   "2jkmgapmsrz,3UPapmsfv,0yhiucd,0nbpogecd,2rhcd,1wugfcd,1iucd,1hqgfcd,1wuricd,1tggfcd,0iccd,0mgtggfcd",
   "1wuricd,1hqgfcd,1iucd,1wugfcd,1porhcd,2gecd,0rziucd,0mstl,0nptl,0DARKtl,0yhpogecd,0rzpogecd,0rfnbmg",
   "2rz,1yhmg,3apnbmgapnbrz,5rz,4yhrzapnbmg,8rz,2rz,3apnbmg,6apnbrz,0cbuw,0zcuw,2zesmCORNERS,2dwcbuluw",
   "0uwzejthh,2ynhh,2ORTHOGONAL CROSSHATCHhh,2yhmgTOnbrzhh,3rzTOnbmghh,2fbCROSSHATCHhh,0cbuluw,0zculuw",
   "0cbrn,0zcrn,0cbynrn,0zcynrn,0cbPARALLELOGRAM,0zcPARALLELOGRAM,0cbyfxk,0zcyfxk,0cbyfulxk,0zcyfulxk",
   "0cbsbxk,0zcsbxk,0cbsbulxk,0zcsbulxk,0cbsbPOINTER,0zcsbPOINTER,0cbfwxk,0zcfwxk,0cbfwulxk,0zcfwulxk",
   "0cbmixk,0zcmixk,0cbmiulxk,0zcmiulxk,0cbmiPOINTER,0zcmiPOINTER,0cbfe,0zcfe,2dwcbulfe,0FISHEYE,0nc",
   "0zcdh,0frdh,0dhzeynhh,0BULLSEYE,0cbdh,0dhzemgiucb,2rziucb,2nbiucb,2yhiucb,3rzrfcb,2ALL BUTyhmgrfcb",
   "0mgiucbdh,0rziucbdh,0kock,1zcdh,0yhiukozcdh,0nbiukozcdh,0yhmgrfCIRCULAR ARC,1rzrfCIRCULAR ARC",
   "0nbrzrfCIRCULAR ARC,1mgrfCIRCULAR ARC,0yhiudh,0nbiudh,0cbnbrzxk,2mgxk,1yhmgxk,2rzxk,0zcck",
   "0uwzemgiucb,2rziucb,2yhmgfbiucb,2nbrzfbiucb,0zcuwzeynBISECTINGmt,1yfxkzefo,0yfxkzemgiucb,3rziucb",
   "0mcdh,0zcuwzeyhmgrf,3nbmgrf,4rzrf,3yhrzrf,1dhzeyhmgrf,3nbmgrf,4rzrf,3yhrzrf,0yhmgxk,1rzxk,0nbmgxk",
   "0zcnpuw,0cbnpuw,0zcnpuluw,0cbnpuluw,0nbrzxk,0cbSUNzeRAYS,0CLOUD,0UMBRELLA,0SNOWMAN,0COMET,0cbvb",
   "0zcvb,0LIGHTNING,0THUNDERSTORM,0SUN,0ASCENDING NODE,0DESCENDING NODE,0CONJUNCTION,0OPPOSITION,0cbwe",
   "0zcwe,0BALLOTcg,2zedc,3X,0sr,0UMBRELLAzeRAIN DROPS,0HOT BEVERAGE,0zcSHOGI PIECE,0cbSHOGI PIECE",
   "0SHAMROCK,0rtsiFLORALjick,0cbmgqtkf,1rzqtkf,0zcmgqtkf,1UPqtkf,1rzqtkf,1fvqtkf,0SKULLapCROSSBONES",
   "0CAUTIONua,0RADIOACTIVEua,0BIOHAZARDua,0CADUCEUS,0ANKH,0ORTHODOXec,0deru,0ecOF LORRAINE,2JERUSALEM",
   "0vbapea,0FARSIvt,0ADI SHAKTI,0HAMMERapSICKLE,0PEACEvt,0YINzk,0TRIGRAMhuHEAVEN,2LAKE,2hn,2THUNDER,2zd",
   "2yx,2nz,2fz,0WHEEL OF DHARMA,0zcFROWNINGha,1umha,0cbumha,0zcSUNzeRAYS,0horhny,0LASTrhny,0MERCURY",
   "0FEMALEua,0fz,0MALEua,0JUPITER,0SATURN,0URANUS,0NEPTUNE,0PLUTO,0ARIES,0TAURUS,0GEMINI,0CANCER,0LEO",
   "0VIRGO,0LIBRA,0SCORPIUS,0SAGITTARIUS,0CAPRICORN,0AQUARIUS,0PISCES,0zcddlq,2rj,2sh,2ca,2lt,2qi",
   "0cbddlq,2rj,2sh,2ca,2lt,2qi,1SPADE SUIT,0zcjiSUIT,1feSUIT,0cbCLUB SUIT,0zcSPADE SUIT,0cbjiSUIT",
   "1feSUIT,0zcCLUB SUIT,0HOT SPRINGS,0rhpa,0gepa,0BEAMEDgeNOTES,1uhNOTES,0MUSIC FLATua,1NATURALua",
   "1SHARPua,0zaSYRIACec,0gaSYRIACec,0UNIVERSAL RECYCLINGvt,0RECYCLINGvthuTYPE-1qp,3TYPE-2qp,3TYPE-3qp",
   "3TYPE-4qp,3TYPE-5qp,3TYPE-6qp,3TYPE-7qp,3GENERIC MATERIALS,0cbUNIVERSAL RECYCLINGvt",
   "0RECYCLED PAPERvt,0PARTIALLY-RECYCLED PAPERvt,0PERMANENT PAPERua,0WHEELCHAIRvt,0DIE FACE-1,1FACE-2",
   "1FACE-3,1FACE-4,1FACE-5,1FACE-6,0zcdhzeforz,3yafq,0cbdhzezcforz,3yazcfq,0nxhuzk,2YIN",
   "0DIGRAMhuGREATERzk,2LESSER YIN,3zk,2GREATER YIN,0zchr,0cbhr,0HAMMERapPICK,0ANCHOR,0edSWORDS",
   "0STAFF OF AESCULAPIUS,0SCALES,0ALEMBIC,0FLOWER,0GEAR,0STAFF OF HERMES,0ATOMvt,0FLEUR-DE-LIS,0puzcvb",
   "0wuLINES CONVERGINGrz,3mg,0WARNINGua,0jnVOLTAGEua,0DOUBLED FEMALEua,1MALEua",
   "0INTERLOCKED FEMALEapMALEua,0MALEapFEMALEua,1zevfua,3apMALEapFEMALEua,0ynMALEzevfua,0jtMALEzevfua",
   "0npzcdh,1cbdh,1ulzcdh,0MARRIAGEvt,0DIVORCEvt,0UNMARRIED PARTNERSHIPvt,0COFFIN,0FUNERAL URN,0NEUTER",
   "0CERES,0PALLAS,0JUNO,0VESTA,0CHIRON,0cbnyLILITH,0SEXTILE,0SEMISEXTILE,0QUINCUNX,0SESQUIQUADRATE",
   "0SOCCERbm,0BASEBALL,0uxKEY,0zcDRAUGHTSnj,2lq,0cbDRAUGHTSnj,2lq,0SNOWMAN WITHOUT SNOW",
   "0SUN BEHIND CLOUD,0RAIN,0cbSNOWMAN,0THUNDER CLOUDapRAIN,0xuzcSHOGI PIECE,1cbSHOGI PIECE,0zcfeINuw",
   "0efLANES,0DISABLED CAR,0OPHIUCHUS,0PICK,0CAR SLIDING,0HELMETzezcec,0diefLANES,0CHAINS,0NO ENTRY",
   "0amONE-WAYmgWAY TRAFFIC,0cbTWO-WAYmgWAY TRAFFIC,0zcTWO-WAYmgWAY TRAFFIC,0cbmgLANE MERGE",
   "0zcmgLANE MERGE,0DRIVE SLOWua,0jkzcfwxk,0mgdnENTRY,0uxsr,0hbfbINzcdhINcbuw,0cbTRUCK",
   "0RESTRICTEDmgENTRY-1,2ENTRY-2,0ASTRONOMICALvthuURANUS,0jkdhzevfapyafqac,0PENTAGRAM",
   "0RIGHT-HANDED INTERLACED PENTAGRAM,0LEFT-HANDED INTERLACED PENTAGRAM,0kpPENTAGRAM,0cbecON SHIELD",
   "0SHINTO SHRINE,0CHURCH,0CASTLE,0HISTORIC SITE,0GEAR WITHOUT HUB,1zeHANDLES,0MAPvthuLIGHTHOUSE,0nz",
   "0UMBRELLA ON GROUND,0FOUNTAIN,0hrIN HOLE,0FERRY,0SAILBOAT,0uwhyCORNERS,0SKIER,0ICE SKATE,0qkzebm",
   "0TENT,0kyBANKvt,0HEADSTONE GRAVEYARDvt,0FUEL PUMP,0CUP ONcbuw,0zchrzejtnscbSTRIPE,0cbSAFETYsw",
   "0yhBLADEsw,0cbsw,0nbBLADEsw,0zcsw,1jkdcnk,0weLOCATIONua,0TAPE DRIVE,0ag,0gm,0rmFIST,1iw,0VICTORYiw",
   "0WRITINGiw,0nbrzPENCIL,0PENCIL,0yhrzPENCIL,0zcNIB,0cbNIB,0dcnk,0jkdcnk,0ofX,0jkofX,0BALLOT X",
   "0jkBALLOT X,0puiqec,0jkiqec,0ppcwec,0jkppcwec,0meec,0tmzcmeec,0pumeec,0MALTESEec,0vbOF DAVID,0hywbbe",
   "1BALLOON-SPOKEDbe,0jkhyBALLOON-SPOKEDbe,0hyCLUB-SPOKEDbe,0cbhyqsvb,0zchyqsvb,0SPARKLES,0STRESSpuzcvb",
   "0dizcvb,0ppcwcbvb,0cbcwzcvb,0pucbvb,0jkpucbvb,0qovb,0tmzcvb,0jkbe,0ppcwbe,0gcuube,1qscbvb,2qovb",
   "0ufqscbvb,0gcqsRECTILINEARcbvb,0jkgcqsRECTILINEARcbvb,0xxqscbvb,0ugqsbe,0wbbe,0ppcwwbbe,0jkwbbe",
   "0ufPETALLEDcbapzcFLORETTE,0cbFLORETTE,0zcFLORETTE,0gcPETALLEDpucbFLORETTE,0dippcwgcqsvb,0jkwbqobe",
   "0SNOWFLAKE,0TIGHT TRIFOLIATE SNOWFLAKE,0jkCHEVRON SNOWFLAKE,0SPARKLE,0jkSPARKLE,0BALLOON-SPOKEDbe",
   "0gcwbPROPELLERbe,0jkgcwbPROPELLERbe,0ecnk,0tmzcdh,0ojuxecnk,0nbrzDROP-SHADOWEDzcuw",
   "0yhrzDROP-SHADOWEDzcuw,0nbrztmzcuw,0yhrztmzcuw,0cbrknkpt,0zcrknkpt,1gvnkpt,0cbfenvzcX,0jkgvnkvt",
   "0msynbo,0npynbo,0jkynbo,1udxudrrlnkpt,2drrlnkpt,1fsxudrrlnkpt,2drrlnkpt,1nauddrrlnkpt,2fsdrrlnkpt",
   "0ekSTEMqduapt,0jkgvnkpt,1jigvnkpt,1cbji,0sijkcbjick,0FLORALji,0siFLORALjick,0npmgqfpt,1rzqfpt",
   "1FLATTENEDmgqfpt,2rzqfpt,1miaqchpt,1sbaqchpt,0jkmiaqrlnkpt,1sbaqrlnkpt,1miaqchpt,1sbaqchpt",
   "0msmgxitschpt,1rzxitschpt,0npmgeichpt,1rzeichpt,0DINGBATojdifhpo,4ya,4wu,4hy,4hq,4uf,4tg,4gc,4oq",
   "3pewf,1distfhpo,4ya,4wu,4hy,4hq,4uf,4tg,4gc,4oq,3pewf,1ojdistfhpo,5ya,5wu,5hy,5hq,5uf,5tg,5gc,5oq",
   "4pewf,0jkWIDE-HEADEDseba,1qqua,1nvua,1flua,1uqgaba,1seba,1owgaba,0DRAFTINGqrseba,0jkROUND-TIPPEDseba",
   "0xlseba,0jkxlseba,0esxlseba,0jkesxlseba,0cbseba,0THREE-D TOP-LIGHTEDsebb,1BOTTOM-LIGHTEDsebb,0cbsebb",
   "0jkcbekfxapseba,3yjapseba,0SQUATcbseba,0jkCONCAVE-POINTEDcbseba,0RIGHT-SHADEDzcseba",
   "0LEFT-SHADEDzcseba,0BACK-TILTEDtmzcseba,0FRONT-TILTEDtmzcseba,0jknbsczcseba,1yhsczcseba",
   "0oznbsczcseba,0eimz,0ozyhsczcseba,0dijkzcseba,0WHITE-FEATHEREDseba,0BLACK-FEATHEREDuqgaba,1seba",
   "1owgaba,0jkBLACK-FEATHEREDuqgaba,2seba,2owgaba,0TEARDROP-BARBEDseba,0jkTEARDROP-SHANKEDseba",
   "0WEDGE-TAILEDseba,0jkWEDGE-TAILEDseba,0OPEN-OUTLINEDseba,0fseimz,0wuDIMENSIONALaq,0zcxkdwulzcxk",
   "0PERPENDICULAR,0ppvk,1vp,0mgS-SHAPED BAG DELIMITER,0rzS-SHAPED BAG DELIMITER,0ORzefokj",
   "0rsuoPRECEDINGvk,0vpPRECEDINGuo,0ynbozejtvf,0nmsgfb,0mxfl,0nmhbfb,0uxmwap,2OR,0zcfezecxfo,0apzefo",
   "0giOF OPENINGyj,0nbrzdzzefo,0yhmgdzzefo,0mgOUTER JOIN,0rzOUTER JOIN,0icOUTER JOIN,0mcUPvu,1fvvu",
   "0mgaprzfsxv,3vu,1MULTIMAP,0mxrzvu,1mgvu,0UPvuzedhac,0ncDIVIDED BYjtRULE,0zcCONCAVE-SIDEDfe,3zemlTICK",
   "4seTICK,1uwzemlTICK,3seTICK,0nmmgzcuwch,1rzzcuwch,1mgaqch,1rzaqch,1mgfsaqch,1rzfsaqch,1mgzcxitsch",
   "1rzzcxitsch,1mgFLATTENEDqf,1rzFLATTENEDqf,0yjrgba,0fxrgba,0arGAPPEDdhba,0dmGAPPEDdhba,0rzbazediqq",
   "0mxmlba,1seba,1mgrzba,1mlfsba,1sefsba,1mgrzfsba,1mlbaibbo,1sebaibbo,1mlfsbaibbo,1sefsbaibbo",
   "2SQUIGGLEba,0BRAILLE PATTERN BLANK,2DOTS-1,2DOTS-2,2DOTS-12,2DOTS-3,2DOTS-13,2DOTS-23,2DOTS-123",
   "2DOTS-4,2DOTS-14,2DOTS-24,2DOTS-124,2DOTS-34,2DOTS-134,2DOTS-234,2DOTS-1234,2DOTS-5,2DOTS-15",
   "2DOTS-25,2DOTS-125,2DOTS-35,2DOTS-135,2DOTS-235,2DOTS-1235,2DOTS-45,2DOTS-145,2DOTS-245,2DOTS-1245",
   "2DOTS-345,2DOTS-1345,2DOTS-2345,2DOTS-12345,2DOTS-6,2DOTS-16,2DOTS-26,2DOTS-126,2DOTS-36,2DOTS-136",
   "2DOTS-236,2DOTS-1236,2DOTS-46,2DOTS-146,2DOTS-246,2DOTS-1246,2DOTS-346,2DOTS-1346,2DOTS-2346",
   "2DOTS-12346,2DOTS-56,2DOTS-156,2DOTS-256,2DOTS-1256,2DOTS-356,2DOTS-1356,2DOTS-2356,2DOTS-12356",
   "2DOTS-456,2DOTS-1456,2DOTS-2456,2DOTS-12456,2DOTS-3456,2DOTS-13456,2DOTS-23456,2DOTS-123456,2DOTS-7",
   "2DOTS-17,2DOTS-27,2DOTS-127,2DOTS-37,2DOTS-137,2DOTS-237,2DOTS-1237,2DOTS-47,2DOTS-147,2DOTS-247",
   "2DOTS-1247,2DOTS-347,2DOTS-1347,2DOTS-2347,2DOTS-12347,2DOTS-57,2DOTS-157,2DOTS-257,2DOTS-1257",
   "2DOTS-357,2DOTS-1357,2DOTS-2357,2DOTS-12357,2DOTS-457,2DOTS-1457,2DOTS-2457,2DOTS-12457,2DOTS-3457",
   "2DOTS-13457,2DOTS-23457,2DOTS-123457,2DOTS-67,2DOTS-167,2DOTS-267,2DOTS-1267,2DOTS-367,2DOTS-1367",
   "2DOTS-2367,2DOTS-12367,2DOTS-467,2DOTS-1467,2DOTS-2467,2DOTS-12467,2DOTS-3467,2DOTS-13467",
   "2DOTS-23467,2DOTS-123467,2DOTS-567,2DOTS-1567,2DOTS-2567,2DOTS-12567,2DOTS-3567,2DOTS-13567",
   "2DOTS-23567,2DOTS-123567,2DOTS-4567,2DOTS-14567,2DOTS-24567,2DOTS-124567,2DOTS-34567,2DOTS-134567",
   "2DOTS-234567,2DOTS-1234567,2DOTS-8,2DOTS-18,2DOTS-28,2DOTS-128,2DOTS-38,2DOTS-138,2DOTS-238",
   "2DOTS-1238,2DOTS-48,2DOTS-148,2DOTS-248,2DOTS-1248,2DOTS-348,2DOTS-1348,2DOTS-2348,2DOTS-12348",
   "2DOTS-58,2DOTS-158,2DOTS-258,2DOTS-1258,2DOTS-358,2DOTS-1358,2DOTS-2358,2DOTS-12358,2DOTS-458",
   "2DOTS-1458,2DOTS-2458,2DOTS-12458,2DOTS-3458,2DOTS-13458,2DOTS-23458,2DOTS-123458,2DOTS-68,2DOTS-168",
   "2DOTS-268,2DOTS-1268,2DOTS-368,2DOTS-1368,2DOTS-2368,2DOTS-12368,2DOTS-468,2DOTS-1468,2DOTS-2468",
   "2DOTS-12468,2DOTS-3468,2DOTS-13468,2DOTS-23468,2DOTS-123468,2DOTS-568,2DOTS-1568,2DOTS-2568",
   "2DOTS-12568,2DOTS-3568,2DOTS-13568,2DOTS-23568,2DOTS-123568,2DOTS-4568,2DOTS-14568,2DOTS-24568",
   "2DOTS-124568,2DOTS-34568,2DOTS-134568,2DOTS-234568,2DOTS-1234568,2DOTS-78,2DOTS-178,2DOTS-278",
   "2DOTS-1278,2DOTS-378,2DOTS-1378,2DOTS-2378,2DOTS-12378,2DOTS-478,2DOTS-1478,2DOTS-2478,2DOTS-12478",
   "2DOTS-3478,2DOTS-13478,2DOTS-23478,2DOTS-123478,2DOTS-578,2DOTS-1578,2DOTS-2578,2DOTS-12578",
   "2DOTS-3578,2DOTS-13578,2DOTS-23578,2DOTS-123578,2DOTS-4578,2DOTS-14578,2DOTS-24578,2DOTS-124578",
   "2DOTS-34578,2DOTS-134578,2DOTS-234578,2DOTS-1234578,2DOTS-678,2DOTS-1678,2DOTS-2678,2DOTS-12678",
   "2DOTS-3678,2DOTS-13678,2DOTS-23678,2DOTS-123678,2DOTS-4678,2DOTS-14678,2DOTS-24678,2DOTS-124678",
   "2DOTS-34678,2DOTS-134678,2DOTS-234678,2DOTS-1234678,2DOTS-5678,2DOTS-15678,2DOTS-25678,2DOTS-125678",
   "2DOTS-35678,2DOTS-135678,2DOTS-235678,2DOTS-1235678,2DOTS-45678,2DOTS-145678,2DOTS-245678",
   "2DOTS-1245678,2DOTS-345678,2DOTS-1345678,2DOTS-2345678,2DOTS-12345678,0seybbazeynvf,4fsynvf",
   "0mlfsbazeynvf,0sefsbazeynvf,0mgrzfsbazeynvf,0seybbaibbo,0mlfsbaibbo,0sefsbaibbo,0fxbazejtvf",
   "0yjbazejtvf,1xnba,0fxxnba,0mlfserba,0sefserba,0mlxnerba,0sexnerba,1ybxnerba,1bazefrSTEM,0yjbaTObo",
   "0fxbaTObo,0sebazevwzeynvf,5fsynvf,1ybbazevw,5zeynvf,6fsynvf,0mlARROW-TAIL,0seARROW-TAIL",
   "0mlfsARROW-TAIL,0sefsARROW-TAIL,0mlbaTOcbfe,0sebaTOcbfe,0mlbaibboTOcbfe,0sebaibboTOcbfe",
   "0owzaapuqgaba,1gaapuqzaba,1zabazejs,1gabazejs,0uqgabazejs,1zabazejs,0owzabaapowgaba,1gabaapuqgaba",
   "0uqgabaapuqzaba,1zabaapowzaba,0sgfbefhbfb,0hbfbefsgfb,0uqgabaefowgaba,0owgabaefuqgaba,0hbfbefowgaba",
   "0sgfbefuqgaba,0owgabaefowzaba,1zabaefowgaba,0yybaqtDIRECTLYrz,0baqtseTHEN CURVINGyj,5fx",
   "2fxTHEN CURVINGml,5se,0RIGHT-SIDE ARCdmba,0LEFT-SIDE ARCarba,0xhARCarba,0cfARCarba,0xhARCdmbazenv",
   "2arbazeqq,0nbrzSEMICIRCULARdmba,1mgSEMICIRCULARarba,0ardndhba,0dmdndhba,0sebaactvmlba,0mlbaactvseba",
   "0tvsebaacmlba,0sebazeqqbs,0mlbazeqqbs,0sebawvX,0mgrzbawvuldh,0yjybbaibuldh,0mgbpUPrzbpfvjg",
   "2fvrzbpUPjg,0UPbprzfvbpmgjg,2mgfvbprzjg,0mgbpUPrzbpUPjg,0UPbprzfvbprzjg,0mgbpfvrzbpfvjg",
   "0UPbpmgfvbpmgjg,0mljgzebpUP TObo,0sejgzebpUP TObo,0yjjgzebprzTObo,0fxjgzebprzTObo,0mljgzebpfvTObo",
   "0sejgzebpfvTObo,0yjjgzebpmgTObo,0fxjgzebpmgTObo,0mljgzebpUPibbo,0sejgzebpUPibbo,0yjjgzebprzibbo",
   "0fxjgzebprzibbo,0mljgzebpfvibbo,0sejgzebpfvibbo,0yjjgzebpmgibbo,0fxjgzebpmgibbo",
   "0mljgzebpUPacmljgzebpfv,0yjjgzebpmgbuyjjgzebprz,0sejgzebpUPacsejgzebpfv,0fxjgzebpmgbufxjgzebprz",
   "0mljgzebpUPacsejgzebpUP,4fvacsejgzebpfv,0sejgzebpUPacmljgzebpUP,4fvacmljgzebpfv,0mljgzebpUPacmxer",
   "4fvbsmxer,0sejgzebpUPacmxer,4fvbsmxer,0yjjgzebpmgbufxjgzebprz,0fxjgzebpmgbuyjjgzebprz,0rzfsbazesmjh",
   "0gpuaacseba,0wypqacseba,0mlbaacwypq,0sebaacwypq,3ajgoTO,0mpacmlba,0mlbawvmp,0ipacseba,0vkacseba",
   "0mlbawvvk,0vpacmlba,0mgFISHvw,0rzFISHvw,0UP FISHvw,0fvFISHvw,0xnynboDELIMITER,0ZoySPOT,2TYPEdp",
   "0mgzceich,0rzzceich,0mgzcqf,0rzzcqf,0Zoymgkdch,2rzkdch,2mgBINDINGch,2rzBINDINGch,0mguwchzeyd",
   "0rzuwchzeyd,0mguwchzeTICK INxhdz,0rzuwchzeTICK INcfdz,0mguwchzeTICK INcfdz,0rzuwchzeTICK INxhdz",
   "0mgaqchzefo,0rzaqchzefo,0mgARCmpch,0rzARCipch,0fsmgARCipch,1rzARCmpch,0mgcbxitsch,0rzcbxitsch",
   "0frFENCE,0ynzzmt,0MEASUREDaqOPENINGmg,0rzaqylzeuw,0MEASUREDrzaqzefo,0aqzeSkj,0aeaq",
   "0SPHERICALaqOPENINGmg,3UP,0xuaq,0rtaq,0aqzeyd,0rtaqzeyd,0piaqOPENING UP,3fv",
   "0MEASUREDaqzeppARM ENDING INbaqtUPaprz,9UPapmg,9fvaprz,9fvapmg,9rzapUP,9mgapUP,9rzapfv,9mgapfv",
   "0rtEMPTY SET,0EMPTY SETzepw,3uldhac,3rzbaac,3mgbaac,0dhzejtbo,0diynbo,1qe,1rsuo,1PERPENDICULAR",
   "0dhDIVIDED BYjtboapxhiuDIVIDED BYynbo,1zeSUPERIMPOSED X,0diANTICLOCKWISE-ROTATEDflua,0UPbawvdh",
   "0dizcck,1ck,1mp,1ip,0dhzeuldhTOwirz,2yajtSTROKES TOwirz,0uxsgfbuk,1hbfbuk,1be,1uldh,1uw",
   "0yaJOINED SQUARES,0xkzefoac,2yd,0S INxk,0xkzeSERIFS ATcf,0rzxkacmgxk,0mgxkbuynbo,0ynboburzxk",
   "0BOWTIEzemgiucb,2rziucb,0cbBOWTIE,0wzzemgiucb,2rziucb,0zcHOURGLASS,0cbHOURGLASS,0mgWIGGLY FENCE",
   "0rzWIGGLY FENCE,0mgfsWIGGLY FENCE,0rzfsWIGGLY FENCE,0INCOMPLETEkh,0TIEpvkh,0khNEGATEDzeynbo",
   "0DOUBLE-ENDED MULTIMAP,0uwzeCONTOURED OUTLINE,0INCREASES AS,0SHUFFLEqy,0gpuaapujqe,5zewyac",
   "0IDENTICAL TOapujqe,0GLEICH STARK,0THERMODYNAMIC,0fwxkzemgiucb,3rziucb,0cbfezefvba,1nc,0zcdhzefvba",
   "0cbdhzefvba,0ERROR-BARREDzcuw,1cbuw,1zcfe,1cbfe,1zcdh,1cbdh,0RULE-DELAYED,0rsuopq,0uozepw",
   "0rsuozejtvf,0BIGuo,1rsuo,0fsqq,0xnqq,0miekaqch,0sbekaqch,0TINY,0MINY,0N-ARYdifopq,2qqpq,2wzpq",
   "1yepqzefo,4qq,1uwknpq,2yepq,0yamwappq,2ORpq,0N-ARYwzpq,0MODULOyaSUM,0SUMMATIONzekl,0rgklpq",
   "0FINITE PARTkl,0klzefsvf,1AVERAGEzeuk,0CIRCULATION FUNCTION,0arINTEGRATION",
   "0mtINTEGRATIONzeRECTANGULAR PATH AROUND POLE,3SEMICIRCULAR PATH AROUND POLE,2oxINCLUDINGwiPOLE",
   "0klAROUND Aqrpq,0QUATERNIONklpq,0klzemlbazejs,2wzua,2kn,2ye,2pw,2yd,0JOIN,0mcmgxkpq",
   "0ZoySCHEMA COMPOSITION,3PIPING,3PROJECTION,0qquazeuldhac,3dkadac,3wyac,3fobs,3wybs,3vjya,3cbxk",
   "0nvuazedrac,3fobs,3hbfq,3sgfq,0qquaINmgiudh,3rziudh,0VECTOR ORecqy,0ofuazefoac,3yd,0teqyzecfdn",
   "0SMASHqy,0ofuaINmgiudh,3rziudh,0diofuazedkad,0ofuaINfsdh,0diflua,0qquaINxk,0nvuaINxk,0ofuaINxk",
   "0INTERIORqy,0RIGHTHAND INTERIORqy,0ZoyRELATIONAL COMPOSITION,0AMALGAMATION OR COPRODUCT,0knzefo",
   "0yezenvua,2pw,0knzepw,2mwap,0yezemwOR,1ackn,0knacye,0yeacboackn,0knacboacye,0yebuapJOINEDzeye",
   "0knbuapJOINEDzekn,0dnyezeSERIFS,1knzeSERIFS,0fsuwkn,2ye,0dnyezeSERIFSapSMASHqy,0mwapzefoac,1ORzefoac",
   "0fsmwap,2OR,0yaINTERSECTINGmwap,3OR,0SLOPINGmcOR,2ap,0mwOR OVERLAPPINGmwap,1apzensSTEM,1ORzensSTEM",
   "1apzejter,1ORzejter,1apzefspw,3yd,3fsyd,0ulVEEzeyd,0mwORzefspw,4yd,0ZoyDOMAIN ANTIRESTRICTION",
   "2RANGE ANTIRESTRICTION,0gpuazefobs,0IDENTICALzefoac,0xnjtbozefsynvf,4xnynvf,0wypqzefoac,3sgfq",
   "0ucnvuc,0CONGRUENTzefoac,0gpzebe,0ajgoTOzedkad,0avgoORgoTO,0gpuaacqqua,0qquaacgpua,0gpuaacwypq",
   "0fsdpgo,0yaCONSECUTIVEgpSIGNS,0wuCONSECUTIVEgpSIGNS,0gpuazeyafqacapyafqbs,0gszehyfqac,0mpzedhkj",
   "0ipzedhkj,0mpzerknkac,0ipzerknkac,0mpORujgoTO,0ipORujgoTO,0mpORujgoTOzefokj,0ipORujgoTOzefokj",
   "0mpORujgoTOzefoac,0ipORujgoTOzefoac,0mpORujgoTOzefoacrz,0ipORujgoTOzefoacmg,0mpOR APPROXIMATE",
   "0ipOR APPROXIMATE,0mpapueoxgoTO,0ipapueoxgoTO,0mpapoxAPPROXIMATE,0ipapoxAPPROXIMATE,0mpacftgoacip",
   "0ipacftgoacmp,0mpacucORgo,0ipacucORgo,0mpacucacip,0ipacucacmp,0mpacipacftgo,0ipacmpacftgo",
   "0mpacujgoacipacujgo,0ipacujgoacmpacujgo,0ujgoTO ORmp,4ip,4mpzefokj,4ipzefokj,0ftgoTO ORmp,4ip",
   "1ujgoTO ORmp,5ip,0ucORmp,2ip,1acmpacgpua,2ipacgpua,0fsNESTEDmp,2ip,2mpzeyd,0ipOVERLAPPINGmp,1bump",
   "0mpdnBYej,0ipdnBYej,0mpdnBYejacujgo,0ipdnBYejacujgo,0SMALLER THAN,0LARGER THAN,0SMALLER THAN ORgoTO",
   "0LARGER THAN ORgoTO,0gpuazeBUMPYac,0qwacuegpua,0vnacuegpua,0qwacueoxgoTO,0vnacueoxgoTO,0qwacgpua",
   "0vnacgpua,0qwacoxgoTO,0vnacoxgoTO,0qwacajgoTO,0vnacajgoTO,0qwacoxajgoTO,0vnacoxajgoTO,0fsqw,1vn",
   "0vkzefo,0vpzefo,0vkzeqquabs,0vpzeqquabs,0vkzeofuabs,0vpzeofuabs,0vkOF ORgoTOzefoac",
   "0vpOF ORgoTOzefoac,0vkOFacgpua,0vpOFacgpua,0vkOFacwypq,0vpOFacwypq,0vkOFacajgoTO,0vpOFacajgoTO",
   "0vkOFacoxgoTO,0vpOFacoxgoTO,0uwmgppcgpq,1rzppcgpq,0dnvk,1vp,1vkORgoTO,1vpORgoTO,0vkacvp,0vpacvk",
   "0vkacvk,0vpacvp,1buvk,2apJOINED BYerzevk,0giOF OPENINGfx,0PITCHFORKzeTEExh,0TRANSVERSALkn,0FORKING",
   "0NONFORKING,0tvmgvu,1fvvu,1UPvu,0PERPENDICULARzeS,0ynboxnrzxv,0fsynbomgxv,0ynbofsmgxv,0fsynbofsmgxv",
   "0mxeribmgMEMBER OFfsyn,0tvfvvuzepw,1UPvuzeyd,3actvfvvu,0fsfvvu,1UPvu,1vfoxua,0rtfsvfoxua",
   "0DOESoxDIVIDEzertNEGATIONuk,0ynmtzedhac,4bs,0fvvuzedhbs,0qezejtvf,2wypq,0xnynboBINARY RELATION",
   "3zejtvf,1dppq,1NESTEDmp,2ip,0ftujmpORgoTO,2ipORgoTO,0xnuoBINARY RELATION,0mcxnynbopq,0fsuopq,0zcynbo",
   "0N-ARYzcynbo,0owgazcba,1zazcba,0uqgazcba,1zazcba,0mgrzzcba,0mlcbba,0yjcbba,0fxcbba,0owgacbba,1zacbba",
   "0uqgacbba,1zacbba,0mgrzcbba,0UPfvcbba,0sebazeTIPfx,4yj,0mlbazeTIPfx,4yj,0uwzexhiucb,2cfiucb",
   "2yhrzfbiucb,2nbmgfbiucb,0fezemgiucb,2rziucb,2xhiucb,2cfiucb,0fruw,0cbmcuw,0zcmcuw,0cbypuluw",
   "0zcypuluw,0cbPENTAGON,0zcPENTAGON,1HEXAGON,0cbHEXAGON,0jtcbHEXAGON,0cbmcdh,1npfe,0zcnpfe,0cbnpnc",
   "0zcnpnc,0cbulfe,2nc,0zculnc,0cbjtELLIPSE,0zcjtELLIPSE,0cbynELLIPSE,0zcynELLIPSE,0mgbazeuldh,0wumlbc",
   "0mgbazediqq,0mxmlSQUIGGLEba,0mlybbazeynvf,4fsynvf,3ibbo,2xnerba,1bazefrSTEM,3vwzeynvf,5fsynvf",
   "1ybbazevw,5zeynvf,6fsynvf,1bawvX,0yybaqtDIRECTLYmg,0gpuaacmlba,0rswypqacmlba,0mlbaacrsajgoTO",
   "0sebawvip,3vp,0mlrgba,0sergba,0rswypqacseba,0sebaacrsajgoTO,0wypqacmlba,0mlbaacajgoTO,3rswypq",
   "0sebaacrswypq,0fxxlzzba,0tvujowba,1BACKSLANTEDuqba,0zcnpvb,0cbulvb,0zculvb,0cbsbPENTAGON",
   "0zcsbPENTAGON,0jkmcdh,1OVALzeOVALkj,1dhzedhkj,2,1disr,0ujowbazeHOOKEDjh,0BACKSLANTEDuqbazeHOOKEDvw",
   "0ujowbazejtvw,0BACKSLANTEDuqbazejtvw,0btbaqtfxTHENowga,0tvbtbaqtfxTHENowga,0mlxlba,0yjxlba,0sexlba",
   "0fxxlba,0mgrzxlba,0UPfvxlba,0owzaxlba,1gaxlba,0uqgaxlba,1zaxlba,0mlxlesba,0yjxlesba,0sexlesba",
   "0fxxlesba,0dmxlppdhba,0arxlppdhba,0mlxlbaTObo,0yjxlbaTObo,0sexlbaTObo,0fxxlbaTObo,+2,0owzaxlbaTObo",
   "1gaxlbaTObo,0uqgaxlbaTObo,1zaxlbaTObo,0mlxlbazefsjtvf,0yjxlbazefsjtvf,0sexlbazefsjtvf",
   "0fxxlbazefsjtvf,0jtTAB KEY,0ynTAB KEY,0mlxlbapvsexlba,0yjxlbamlOFfxxlba,0sexlbapvmlxlba",
   "0fxxlbamlOFyjxlba,0mlxlqabc,0yjxlqabc,0sexlqabc,0fxxlqabc,0mlcbdizcba,0yjcbdizcba,0secbdizcba",
   "0fxcbdizcba,0arxlrzU-SHAPEDba,2cfU-SHAPEDba,2mgU-SHAPEDba,2xhU-SHAPEDba,0RETURNmg,1rz,0NEWLINEmg,1rz",
   "0hydzbcCIRCLINGar,0secbba,+1,0vthuTYPE A ELECTRONICS,0THREE-D TOP-LIGHTEDmlgrbb,1RIGHT-LIGHTEDyjgrbb",
   "1TOP-LIGHTEDsegrbb,1LEFT-LIGHTEDfxgrbb,0cbmlgrbb,1yjgrbb,1segrbb,1fxgrbb,0fxxlbazemxTIPml,6se",
   "0yjxlbazemxTIPml,6se,0mlxlbazemxTIPyj,0sexlbazemxTIPyj,0mlxlbazemxTIPfx,0sexlbazemxTIPfx",
   "0cbekfxapmlba,4seba,2yjapmlba,4seba,2mlapyjba,2seapyjba,2mlapfxba,2seapfxba,0RIBBONbafvmg,3rz,2UPmg",
   "3rz,2mgUP,2rzUP,2mgfv,2rzfv,0yjzcbaibbozejtbo,0UPbbIN Arncg,0OVERLAPPINGzcSQUARES,2apcbSQUARES",
   "1cbSQUARES,0BALLOTcgzemsX,0diX,1ceX,0cbuwcx,1fecx,0xucbPENTAGON,0jtcbOCTAGON,0cbOCTAGON,1npyfxkcx",
   "2fwxkcx,2mixkcx,2sbxkcx,0NEPTUNEhvya,0xhiucbdh,0cfiucbdh,0mshyqscbCUSP,0simshyqscbCUSP,0zchyqsCUSP",
   "0sizchyqsCUSP,0uwPOSITIONkg,0UNCERTAINTYua,0GROUPnk,0PLUTOhvya,2wu,2hy,2hq,0TRANSPLUTO,0PROSERPINA",
   "0ASTRAEA,0HYGIEA,0PHOLUS,0NESSUS,0zcnySELENA,0cbfeONec,0TRUEmsnyARTA,0CUPIDO,0HADES,0ZEUS,0KRONOS",
   "0APOLLON,0ADMETOS,0VULCANUS,0POSEIDON,0mgiucbvb,0rziucbvb,0vbzemgiucb,2rziucb,0mlybbazexkARROWHEADS",
   "0yjybbazexkARROWHEADS,0seybbazexkARROWHEADS,0fxybbazexkARROWHEADS,0ERIShvpo,2ya,0SEDNA",
   "0RUSSIAN ASTROLOGICALvtVIGINTILE,3NOVILE,3QUINTILE,3BINOVILE,3SENTAGON,3TREDECILE,0gpuazekhbs",
   "0UNITEDvt,0SEPARATEDvt,0DOUBLEDvt,0PASSEDvt,0rtrzaq,0HELLSCHREIBER PAUSEvt,0GLAGOLITICcpmqAZU,3BUKY",
   "3VEDE,3GLAGOLI,3DOBRO,3YESTU,3ZHIVETE,3DZELO,3ZEMLJA,3IZHE,3kiIZHE,3I,3DJERVI,3KAKO,3LJUDIJE",
   "3MYSLITE,3NASHI,3ONU,3POKOJI,3RITSI,3SLOVO,3TVRIDO,3UKU,3FRITU,3HERU,3OTU,3PE,3SHTA,3TSI,3CHRIVI,3tj",
   "3zn,3YERI,3YATI,3SPIDERY HA,3YU,3ulzq,5zevw,3YO,3krulzq,3BIGzq,3krBIGzq,3FITA,3kw,3SHTAPIC",
   "3TROKUTASTI A,3LATINATE MYSLITE,3CAUDATE CHRIVI,1ulmqAZU,3BUKY,3VEDE,3GLAGOLI,3DOBRO,3YESTU,3ZHIVETE",
   "3DZELO,3ZEMLJA,3IZHE,3kiIZHE,3I,3DJERVI,3KAKO,3LJUDIJE,3MYSLITE,3NASHI,3ONU,3POKOJI,3RITSI,3SLOVO",
   "3TVRIDO,3UKU,3FRITU,3HERU,3OTU,3PE,3SHTA,3TSI,3CHRIVI,3tj,3zn,3YERI,3YATI,3SPIDERY HA,3YU,3ulzq",
   "5zevw,3YO,3krulzq,3BIGzq,3krBIGzq,3FITA,3kw,3SHTAPIC,3TROKUTASTI A,3LATINATE MYSLITE,3CAUDATE CHRIVI",
   "0mecpmqLzefsbo,1ulmqLzefsbo,1cpmqLzenswy,3Pzevf,3Rzevw,1ulmqAzevf,3Tzefbvf,1cpmqHzeey,1ulmqHzeey",
   "1cpmqKzeey,1ulmqKzeey,1cpmqZzeey,1ulmqZzeey,1cpmqal,3Mzejs,3xuA,4al,1ulmqVzerzjs,1cpmqWzejs",
   "1ulmqWzejs,3Vzeeh,1cpmqiuH,1ulmqiuH,3TAILLESSqm,3EzeNOTCH,3xuRzevw,3Ozenasfkj,1mqulcpxuE,1vjulmqJ",
   "0nwmqcpV,0mecpmqSzeSWASHvw,3ZzeSWASHvw,0dycpmqALFA,1ulmqALFA,1cpmqVIDA,1ulmqVIDA,1cpmqid,1ulmqid",
   "1cpmqDALDA,1ulmqDALDA,1cpmqEIE,1ulmqEIE,1cpmqSOU,1ulmqSOU,1cpmqZATA,1ulmqZATA,1cpmqHATE,1ulmqHATE",
   "1cpmqTHETHE,1ulmqTHETHE,1cpmqIAUDA,1ulmqIAUDA,1cpmqKAPA,1ulmqKAPA,1cpmqLAULA,1ulmqLAULA,1cpmqMI",
   "1ulmqMI,1cpmqNI,1ulmqNI,1cpmqKSI,1ulmqKSI,1cpmqO,1ulmqO,1cpmqPI,1ulmqPI,1cpmqRO,1ulmqRO,1cpmqSIMA",
   "1ulmqSIMA,1cpmqvz,1ulmqvz,1cpmqUA,1ulmqUA,1cpmqFI,1ulmqFI,1cpmqKHI,1ulmqKHI,1cpmqra,1ulmqra,1cpmqOOU",
   "1ulmqOOU,1cpmqfcah,1ulmqfcah,1cpmqpldyaf,1ulmqpldyaf,1cpmqegEIE,1ulmqegEIE,1cpmqfcKAPA,1ulmqfcKAPA",
   "1cpmqfcNI,1ulmqfcNI,1cpmqegNI,1ulmqegNI,1cpmqpldyOOU,1ulmqpldyOOU,1cpmqSAMPI,1ulmqSAMPI,1cpmqedSHEI",
   "1ulmqedSHEI,1cpmqpldySHEI,1ulmqpldySHEI,1cpmqpldygt,1ulmqpldygt,1cpmqAKHMIMIC KHEI",
   "1ulmqAKHMIMIC KHEI,1cpmqfcHORI,1ulmqfcHORI,1cpmqpldyHORI,1ulmqpldyHORI,1cpmqpldyHA,1ulmqpldyHA",
   "1cpmqL-SHAPED HA,1ulmqL-SHAPED HA,1cpmqpldyHEI,1ulmqpldyHEI,1cpmqpldyHAT,1ulmqpldyHAT",
   "1cpmqpldyGANGIA,1ulmqpldyGANGIA,1cpmqpldyDJA,1ulmqpldyDJA,1cpmqpldySHIMA,1ulmqpldySHIMA",
   "1cpmqplpcSHIMA,1ulmqplpcSHIMA,1cpmqplpcNGI,1ulmqplpcNGI,1cpmqplpcNYI,1ulmqplpcNYI,1cpmqplpcWAU",
   "1ulmqplpcWAU,1vtKAI,2MI RO,2PI RO,2STAUROS,2vzRO,2KHI RO,2SHIMA SIMA,1cpmqegSHEI,1ulmqegSHEI",
   "1cpmqegGANGIA,1ulmqegGANGIA,1dqNIac,2SPIRITUS ASPER,3LENIS,1cpmqBOHAIRIC KHEI,1ulmqBOHAIRIC KHEI,+5",
   "1plpcicvd,3DIRECTrknk,3INDIRECTrknk,3VERSEfk,1iapoiu,1icvd,1MORPHOLOGICALfk,0GEORGIANulmqAN,3BAN",
   "3GAN,3DON,3EN,3VIN,3ZEN,3TAN,3IN,3KAN,3LAS,3nj,3NAR,3ON,3PAR,3ZHAR,3RAE,3SAN,3TAR,3UN,3PHAR,3KHAR",
   "3GHAN,3QAR,3tu,3CHIN,3CAN,3JIL,3CIL,3CHAR,3XAN,3JHAN,3HAE,3HE,3HIE,3WE,3HAR,3HOE,+1,3YN,+5,3AEN,+2",
   "0TIFINAGHmqYA,2YAB,2YABH,2YAG,2YAGHH,2BERBER ACADEMY YAJ,2YAJ,2YAD,2YADH,2YADD,2YADDH,2YEY,2YAF,2YAK",
   "2xtYAK,2YAKHH,2YAH,2BERBER ACADEMY YAH,2xtYAH,2YAHH,2YAA,2YAKH,2xtYAKH,2YAQ,2xtYAQ,2YI,2YAZH",
   "2AHAGGAR YAZH,2xtYAZH,2YAL,2YAM,2YAN,2xtYAGN,3zk,2YAP,2YU,2YAR,2YARR,2YAGH,2xtYAGH,2AYER YAGH,2YAS",
   "2YASS,2YASH,2YAT,2YATH,2YACH,2YATT,2YAV,2YAW,2YAY,2YAZ,2TAWELLEMET YAZ,2YAZZ,2YE,2YO,+7",
   "1nwmqLABIALIZATIONnk,1tfnk,+e,1dvlc,0ETHIOPICvsLOA,2MOA,2ROA,2SOA,2SHOA,2BOA,2TOA,2COA,2NOA,2NYOA",
   "2inOA,2ZOA,2DOA,2DDOA,2JOA,2THOA,2CHOA,2PHOA,2POA,2GGWA,2GGWI,2GGWEE,2GGWE,+9,2uy,2SSU,2SSI,2SSAA",
   "2SSEE,2SSE,2SSO,+1,2CCA,2CCU,2CCI,2CCAA,2CCEE,2CCE,2CCO,+1,2ZZA,2ZZU,2ZZI,2ZZAA,2ZZEE,2ZZE,2ZZO,+1",
   "2CCHA,2CCHU,2CCHI,2CCHAA,2CCHEE,2CCHE,2CCHO,+1,2QYA,2QYU,2QYI,2QYAA,2QYEE,2QYE,2QYO,+1,2KYA,2KYU",
   "2KYI,2KYAA,2KYEE,2KYE,2KYO,+1,2XYA,2XYU,2XYI,2XYAA,2XYEE,2XYE,2XYO,+1,2GYA,2GYU,2GYI,2GYAA,2GYEE",
   "2GYE,2GYO,+1,0dqelmqBE,3VE,3ik,3DE,3zy,3ZE,3KA,3EL,3EM,3EN,3O,3PE,3ER,3ES,3TE,3HA,3TSE,3db,3tj",
   "3SHCHA,3FITA,3ES-TE,3A,3IE,3DJERV,3MONOGRAPH UK,3YAT,3YU,3ksA,3muzq,3BIGzq,3ksBIGzq,0rzaqvlnl",
   "2frvlnl,0mgvlch,0rzvlch,0mgfrvlch,0rzfrvlch,0rmINTERPOLATIONnl,1frINTERPOLATIONnl,0frTRANSPOSITIONnl",
   "0mgTRANSPOSITIONch,0rzTRANSPOSITIONch,0rmuw,0mgrmOMISSIONch,0rzrmOMISSIONch,0EDITORIAL CORONIS",
   "0PARAGRAPHOS,0FORKED PARAGRAPHOS,0rtFORKED PARAGRAPHOS,0HYPODIASTOLE,0frOBELOS,0fxANCORA,0yjANCORA",
   "0frsbaq,0fspijx,0kpkm,0PALM BRANCH,0jxzefa,0wyzesfac,0mgnaPARAPHRASEch,0rznaPARAPHRASEch,0wyzefoac",
   "3bs,0mgynbozeQUILL,0rzynbozeQUILL,0xhmgiuch,1rziuch,0cfmgiuch,1rziuch,0mgtyUch,0rztyUch,0mgfsqf",
   "0rzfsqf,0yafqpvpoforc,0pofopvyafqrc,0uxhyforc,0hqfonk,0rtrknk,0ynwy,0sfqr,0zgtfnsfo,0xudr,0rmfo,1dr",
   "0xutd,0DAGGERzemgGUARD,2rzGUARD,0xuDAGGER,0xhiutaua,0TWO-EMer,0THREE-EMer,0STENOGRAPHICicvd,0ynuffq",
   "0WIGGLYynmt,0CAPITULUM,0fsjx,0rtdr,0fsLOW-REVERSED-9rlnk,0erzemgUPTURN,0fsSUSPENSIONnk,0kpnaKAVYKA",
   "3zeKAVYKAac,0naKAVYKA,2zefo,0fsSTACKEDdr,0fruo,0xnDAGGER,0MEDIEVALdr,0PARAGRAPHUSnk",
   "0PUNCTUS ELEVATUSnk,0CORNISH VERSEfk,0ecPATTYzerzCROSSBAR,3mgCROSSBAR,0TIRONIANuacpET,0MEDIEVALgvnk",
   "1rknk,0mguwchzevf,0rzuwchzevf,0mguwchzefsvf,0rzuwchzefsvf,0xhiumgqf,2rzqf,0cfiumgqf,2rzqf,0pijx,+22",
   "0CJK RADICAL REPEAT,2CLIFF,2szpo,3ya,3wu,2qk,2cg,2TABLE,2KNIFEpo,3ya,2DIVINATION,2SEAL,2ulpo,3ya",
   "2LAMEpo,3ya,3wu,3hy,2SNAKE,2THREAD,2SNOUTpo,3ya,2jipo,3ya,2iw,2RAP,+1,2CHOKE,2SUN,2ny,2DEATH,2MOTHER",
   "2CIVILIAN,2yxpo,3ya,2hn,2PAWpo,3ya,2SIMPLIFIEDiuTREE TRUNK,2COW,2DOG,2JADE,2BOLT OF CLOTH,2EYE",
   "2SPIRITpo,3ya,2BAMBOO,2SILK,2clSILK,2NETpo,3ya,3wu,3hy,2MESH,2SHEEP,2RAM,2EWE,2pl,2BRUSHpo,3ya,2MEAT",
   "2MORTAR,2GRASSpo,3ya,3wu,2TIGER,2CLOTHES,2zapo,3ya,2clSEE,2SIMPLIFIEDju,2ju,2clut,3ts,2FOOT,2clCART",
   "2SIMPLIFIED WALK,2WALKpo,3ya,2CITY,2clGOLD,2mxpo,3ya,2clmx,3GATE,2MOUNDpo,3ya,2RAIN,2BLUE",
   "2clTANNED LEATHER,3mf,3zd,3FLY,2EATpo,3ya,3wu,2clEAT,2jh,2cljv,2BONE,2GHOST,2clFISH,3BIRD,3SALT",
   "2SIMPLIFIED WHEAT,3YELLOW,2clFROG,2kxEVEN,2clEVEN,2kxTOOTH,2clTOOTH,2kxfy,2clfy,2TURTLE,2kxTURTLE",
   "2clTURTLE,+c,0KANGXI RADICALpo,2mt,2fo,2uk,2sz,2js,2ya,2LID,2nj,2LEGS,2ENTER,2gc,2fvcg,2COVER,2ICE",
   "2TABLE,2ppcg,2KNIFE,2POWER,2WRAP,2SPOON,2rzppcg,2HIDING ENCLOSURE,2wf,2DIVINATION,2SEAL,2CLIFF",
   "2PRIVATE,2AGAIN,2oa,2ENCLOSURE,2fz,2SCHOLAR,2GO,3SLOWLY,2EVENING,2BIG,2WOMAN,2CHILD,2ROOF,2INCH,2ul",
   "2LAME,2CORPSE,2SPROUT,2nz,2RIVER,2WORK,2ONESELF,2TURBAN,2DRY,2tvTHREAD,2frCLIFF,2mxSTRIDE,2yaje",
   "2SHOOT,2BOW,2SNOUT,2BRISTLE,2STEP,2ji,2HALBERD,2DOOR,2iw,2BRANCH,2RAP,2sx,2DIPPER,2AXE,2uw,2ox,2SUN",
   "2SAY,2ny,2TREE,2LACK,2vd,2DEATH,2WEAPON,2DOox,2COMPARE,2FUR,2CLAN,2STEAM,2yx,2hn,2CLAW,2FATHER,2fsX",
   "2iuTREE TRUNK,2SLICE,2FANG,2COW,2DOG,2PROFOUND,2JADE,2MELON,2TILE,2SWEET,2LIFE,2USE,2FIELD",
   "2BOLT OF CLOTH,2SICKNESS,2frTENT,2zc,2SKIN,2fj,2EYE,2SPEAR,2ba,2STONE,2SPIRIT,2TRACK,2GRAIN,2CAVE",
   "2STAND,2BAMBOO,2RICE,2SILK,2JAR,2NET,2SHEEP,2FEATHER,2pl,2ap,2PLOW,2EAR,2BRUSH,2MEAT,2MINISTER,2SELF",
   "2ARRIVE,2MORTAR,2xf,2OPPOSE,2BOAT,2STOPPING,2COLOR,2GRASS,2TIGER,2INSECT,2BLOOD,2WALK ENCLOSURE",
   "2CLOTHES,2za,2SEE,2ju,2ut,2VALLEY,2BEAN,2PIG,2BADGER,2ts,2RED,2RUN,2FOOT,2BODY,2CART,2BITTER",
   "2MORNING,2WALK,2CITY,2WINE,2DISTINGUISH,2VILLAGE,2GOLD,2mx,2GATE,2MOUND,2SLAVE,2tvTAILED BIRD,2RAIN",
   "2BLUE,2WRONG,2ha,2LEATHER,2TANNED LEATHER,2LEEK,2up,2mf,2zd,2FLY,2EAT,2jh,2FRAGRANT,2jv,2BONE,2TALL",
   "2HAIR,2FIGHT,2SACRIFICIAL WINE,2CAULDRON,2GHOST,2FISH,2BIRD,2SALT,2DEER,2WHEAT,2HEMP,2YELLOW,2MILLET",
   "2cb,2EMBROIDERY,2FROG,2TRIPOD,2DRUM,2RAT,2NOSE,2EVEN,2TOOTH,2fy,2TURTLE,2FLUTE,+1a",
   "0kaDESCRIPTIONczmgTOrz,3acTObs,3mgTOnsaprz,3acTOnsapbs,3icSURROUND,3SURROUNDibac,5bs,5mg,5yhmg,6rz",
   "5nbmg,3OVERLAID,+4,1ur,1dr,1icvd,0DITTOnk,0kyINDUSTRIAL STANDARDvt,0kakvnk,1CLOSINGnk,1pezv,0mgaqch",
   "0rzaqch,0mgfsaqch,0rzfsaqch,0mgdzch,0rzdzch,0mgzcdzch,0rzzcdzch,0mgcbmoch,0rzcbmoch,0POSTALnk",
   "0GETAnk,0mgxitsch,0rzxitsch,0mgzcmoch,0rzzcmoch,0mgzcxitsch,0rzzcxitsch,0mgzcuwch,0rzzcuwch,0yyer",
   "0rtfsqxrlnk,0fsqxrlnk,0nafsqxrlnk,0POSTALnkha,0HANGZHOUpfpo,2ya,2wu,2hy,2hq,2uf,2tg,2gc,2oq",
   "0kaLEVELxank,1sgxank,1DEPARTINGxank,1ENTERINGxank,0jfudfoxank,1fsfoxank,0WAVYer,0ynKANA REPEATnk",
   "3zeytupnk,3nkyhiu,3zeytupnkyhiu,3nknbiu,0diPOSTALnk,0kaTELEGRAPHmtFEEDtfvt,0HANGZHOUpfwf,2xy,2wq",
   "0ynkakvnk,0MASUnk,0PART ALTERNATIONnk,0kaymkg,1iuhhur,+1,0jpmqulA,2A,2ulI,2I,2ulU,2U,2ulE,2E,2ulO,2O",
   "2KA,2GA,2KI,2GI,2KU,2GU,2KE,2GE,2KO,2GO,2SA,2ZA,2SI,2ZI,2SU,2ZU,2SE,2ZE,2SO,2ZO,2TA,2DA,2TI,2DI",
   "2ulTU,2TU,2DU,2TE,2DE,2TO,2DO,2NA,2NI,2NU,2NE,2NO,2HA,2BA,2PA,2HI,2BI,2PI,2HU,2BU,2PU,2HE,2BE,2PE",
   "2HO,2BO,2PO,2MA,2MI,2MU,2ME,2MO,2ulYA,2YA,2ulYU,2YU,2ulYO,2YO,2RA,2RI,2RU,2RE,2RO,2ulWA,2WA,2WI,2WE",
   "2WO,2N,2VU,2ulKA,3KE,+2,0dqlkytupnk,2SEMI-VOICEDupnk,0lkytupnk,1SEMI-VOICEDupnk,0jpkvnk,1ytkvnk",
   "1fiYORI,0lkfsjx,0ljmqulA,2A,2ulI,2I,2ulU,2U,2ulE,2E,2ulO,2O,2KA,2GA,2KI,2GI,2KU,2GU,2KE,2GE,2KO,2GO",
   "2SA,2ZA,2SI,2ZI,2SU,2ZU,2SE,2ZE,2SO,2ZO,2TA,2DA,2TI,2DI,2ulTU,2TU,2DU,2TE,2DE,2TO,2DO,2NA,2NI,2NU",
   "2NE,2NO,2HA,2BA,2PA,2HI,2BI,2PI,2HU,2BU,2PU,2HE,2BE,2PE,2HO,2BO,2PO,2MA,2MI,2MU,2ME,2MO,2ulYA,2YA",
   "2ulYU,2YU,2ulYO,2YO,2RA,2RI,2RU,2RE,2RO,2ulWA,2WA,2WI,2WE,2WO,2N,2VU,2ulKA,3KE,2VA,2VI,2VE,2VO,1nsfo",
   "0lkPROLONGEDupnk,0ljkvnk,1ytkvnk,1fiKOTO,+5,0BOPOMOFOmqB,2P,2M,2F,2D,2T,2N,2L,2G,2K,2H,2J,2Q,2X,2ZH",
   "2CH,2SH,2R,2Z,2C,2S,2A,2O,2E,2EH,2AI,2EI,2AU,2OU,2AN,2EN,2ANG,2ENG,2ER,2I,2U,2IU,2V,2NG,2GN,2IH",
   "2Ozefoac,2NN,+1,0jfmqlr,2uz,2KIYEOK-SIOS,2NIEUN,2oo,2op,2wx,2va,2RIEUL,2rw,2rx,2ry,2RIEUL-SIOS",
   "2RIEUL-THIEUTH,2RIEUL-PHIEUPH,2rv,2MIEUM,2PIEUP,2SSANGPIEUP,2PIEUP-SIOS,2SIOS,2SSANGSIOS,2kb,2dg",
   "2SSANGCIEUC,2df,2lo,2wm,2qn,2HIEUH,2A,2AE,2YA,2YAE,2EO,2E,2YEO,2YE,2O,2WA,2WAE,2OE,2YO,2U,2WEO,2WE",
   "2WI,2YU,2EU,2YI,2I,1hi,1mqSSANGNIEUN,2NIEUN-TIKEUT,2NIEUN-SIOS,2NIEUN-PANSIOS,2RIEUL-KIYEOK-SIOS",
   "2RIEUL-TIKEUT,2RIEUL-PIEUP-SIOS,2RIEUL-PANSIOS,2RIEUL-YEORINHIEUH,2MIEUM-PIEUP,2MIEUM-SIOS",
   "2MIEUM-PANSIOS,2KAPYEOUNMIEUM,2PIEUP-KIYEOK,2PIEUP-TIKEUT,2PIEUP-SIOS-KIYEOK,2PIEUP-SIOS-TIKEUT",
   "2PIEUP-CIEUC,2PIEUP-THIEUTH,2KAPYEOUNPIEUP,2KAPYEOUNSSANGPIEUP,2SIOS-KIYEOK,2SIOS-NIEUN,2SIOS-TIKEUT",
   "2SIOS-PIEUP,2SIOS-CIEUC,2PANSIOS,2SSANGIEUNG,2YESIEUNG,2YESIEUNG-SIOS,2YESIEUNG-PANSIOS",
   "2KAPYEOUNPHIEUPH,2SSANGHIEUH,2YEORINHIEUH,2YO-YA,2YO-YAE,2YO-I,2YU-YEO,2YU-YE,2YU-I,2ARAEA,2ARAEAE",
   "+1,0kaANNOTATION LINKINGnk,2rsnk,2ponk,2yank,2wunk,2hynk,2xhnk,2nsnk,2cfnk,2honk,2sznk,2wnnk",
   "2FOURTHnk,2HEAVENnk,2fznk,2njnk,0BOPOMOFOmqBU,2ZI,2JI,2GU,2EE,2ENN,2OO,2ONN,2IR,2ANN,2INN,2UNN,2IM",
   "2NGG,2AINN,2AUNN,2AM,2OM,2ONG,2INNN,1hjmqP,3T,3K,3H,1mqGH,2LH,2ZY,1hjmqG,1mqGW,2KW,2OE,2AH,0CJKvfT",
   "2WG,2XG,2BXG,2SW,2HZZ,2HZG,2HP,2HZWG,2SZWG,2HZT,2HZZP,2HPWG,2HZW,2HZZZ,2N,2H,2S,2P,2SP,2D,2HZ,2HG",
   "2SZ,2SWZ,2ST,2SG,2PD,2PZ,2TN,2SZZ,2SWG,2HXWG,2HZZZG,2PG,2Q,+c,0ljmqulKU,3SI,3SU,3TO,3NU,3HA,3HI,3HU",
   "3HE,3HO,3MU,3RA,3RI,3RU,3RE,3RO,0qgjflr,2NIEUN,2wx,2RIEUL,2MIEUM,2PIEUP,2SIOS,2kb,2dg,2df,2lo,2wm",
   "2qn,2HIEUH,2lrA,2NIEUN A,2wxA,2RIEUL A,2MIEUM A,2PIEUP A,2SIOS A,2kbA,2dgA,2dfA,2loA,2wmA,2qnA",
   "2HIEUH A,2dgU,1KOREANczOJEON,3O HU,+1,1IDEOGRAPHpo,2ya,2wu,2hy,2hq,2uf,2tg,2gc,2oq,2wf,2ny,2hn,2yx",
   "2WOOD,2METAL,2fz,2SUN,2STOCK,2HAVE,2SOCIETY,2NAME,2SPECIAL,2FINANCIAL,2CONGRATULATION,2LABOR",
   "2REPRESENT,2CALL,2STUDY,2SUPERVISE,2ENTERPRISE,2RESOURCE,2ALLIANCE,2FESTIVAL,2rq,2SELF,2REACH",
   "0diIDEOGRAPHrk,2KINDERGARTEN,2SCHOOL,2KOTO,1pewfONcbuw,2xyONcbuw,2wqONcbuw,2hwONcbuw,2hgONcbuw",
   "2uiONcbuw,2tiONcbuw,2ggONcbuw,0PARTNERSHIPua,0dipexypo,3ya,3wu,3hy,3hq,3uf,3tg,3gc,3oq,2wq,3po,3ya",
   "3wu,3hy,3hq,1jflr,2NIEUN,2wx,2RIEUL,2MIEUM,2PIEUP,2SIOS,2kb,2dg,2df,2lo,2wm,2qn,2HIEUH,2lrA,2NIEUN A",
   "2wxA,2RIEUL A,2MIEUM A,2PIEUP A,2SIOS A,2kbA,2dgA,2dfA,2loA,2wmA,2qnA,2HIEUH A,1KOREANczCHAMKO",
   "3JUEUI,1jfkbU,0KOREAN STANDARDvt,0diIDEOGRAPHpo,2ya,2wu,2hy,2hq,2uf,2tg,2gc,2oq,2wf,2ny,2hn,2yx",
   "2WOOD,2METAL,2fz,2SUN,2STOCK,2HAVE,2SOCIETY,2NAME,2SPECIAL,2FINANCIAL,2CONGRATULATION,2LABOR,2SECRET",
   "2MALE,2FEMALE,2SUITABLE,2EXCELLENT,2PRINT,2ATTENTION,2ITEM,2rq,2COPY,2CORRECT,2jn,2cw,2na,2mg,2rz",
   "2MEDICINE,2RELIGION,2STUDY,2SUPERVISE,2ENTERPRISE,2RESOURCE,2ALLIANCE,2NIGHT,1pewquf,3tg,3gc,3oq,2hw",
   "3po,3ya,3wu,3hy,3hq,3uf,3tg,3gc,3oq,2hg,0kaTELEGRAPHvthuJANUARY,4FEBRUARY,4MARCH,4APRIL,4MAY,4JUNE",
   "4JULY,4AUGUST,4SEPTEMBER,4OCTOBER,4NOVEMBER,4DECEMBER,0uwHG,1ERG,1EV,0LIMITED LIABILITYua,0diljA,2I",
   "2U,2E,2O,2KA,2KI,2KU,2KE,2KO,2SA,2SI,2SU,2SE,2SO,2TA,2TI,2TU,2TE,2TO,2NA,2NI,2NU,2NE,2NO,2HA,2HI,2HU",
   "2HE,2HO,2MA,2MI,2MU,2ME,2MO,2YA,2YU,2YO,2RA,2RI,2RU,2RE,2RO,2WA,2WI,2WE,2WO,0uwERA NAME REIWA",
   "1APAATO,1ARUHUA,1ANPEA,1AARU,1ININGU,1INTI,1UON,1ESUKUUDO,1EEKAA,1ONSU,1OOMU,1KAIRI,1KARATTO",
   "1KARORII,1GARON,1GANMA,1GIGA,1GINII,1KYURII,1GIRUDAA,1KIRO,1KIROGURAMU,1KIROMEETORU,1KIROWATTO",
   "1GURAMU,1GURAMUTON,1KURUZEIRO,1KUROONE,1KEESU,1KORUNA,1KOOPO,1SAIKURU,1SANTIIMU,1SIRINGU,1SENTI",
   "1SENTO,1DAASU,1DESI,1DORU,1TON,1NANO,1NOTTO,1HAITU,1PAASENTO,1PAATU,1BAARERU,1PIASUTORU,1PIKURU",
   "1PIKO,1BIRU,1HUARADDO,1HUIITO,1BUSSYERU,1HURAN,1HEKUTAARU,1PESO,1PENIHI,1HERUTU,1PENSU,1PEEZI,1BEETA",
   "1POINTO,1BORUTO,1HON,1PONDO,1HOORU,1HOON,1MAIKURO,1MAIRU,1MAHHA,1MARUKU,1MANSYON,1MIKURON,1MIRI",
   "1MIRIBAARU,1MEGA,1MEGATON,1MEETORU,1YAADO,1YAARU,1YUAN,1RITTORU,1RIRA,1RUPII,1RUUBURU,1REMU",
   "1RENTOGEN,1WATTO,0kaTELEGRAPHvthuHOURzv,5po,5ya,5wu,5hy,5hq,5uf,5tg,5gc,5oq,5wf,5gj,5xx,5wp,5hz,5hf",
   "5ug,5th,5gd,5or,5xy,5TWENTY-ONE,5TWENTY-TWO,5TWENTY-THREE,5TWENTY-FOUR,0uwHPA,1DA,1AU,1bo,1OV,1PC",
   "1DM,2ux,2CUBED,1IU,1ERA NAME HEISEI,3SYOUWA,3TAISYOU,3MEIZI,1CORPORATION,1PA AMPS,1NA,1MU A,1MA,1KA",
   "1KB,1MB,1GB,1CAL,1KCAL,1PF,1NF,1MU F,2G,1MG,1KG,1HZ,1KHZ,1MHZ,1GHZ,1THZ,1MU L,1ML,1DL,1KL,1FM,1NM",
   "1MU M,1MM,1CM,1KM,1MMux,1CMux,1Mux,1KMux,1MM CUBED,1CM CUBED,1M CUBED,1KM CUBED,1MpvS,4ux,1PA,1KPA",
   "1MPA,1GPA,1RAD,2pvS,4ux,1PS,1NS,1MU S,1MS,1PV,1NV,1MU V,1MV,1KV,1MV MEGA,1PW,1NW,1MU W,1MW,1KW",
   "1MW MEGA,1K OHM,1M OHM,1AM,1BQ,1CC,1CD,1CpvKG,1CO,1DB,1GY,1HA,1HP,1IN,1KK,1KMcp,1KT,1LM,1LN,1LOG,1LX",
   "1MBul,1MIL,1MOL,1PH,1PM,1PPM,1PR,1SR,1SV,1WB,1VpvM,1ApvM,0kaTELEGRAPHvthuDAYpo,5ya,5wu,5hy,5hq,5uf",
   "5tg,5gc,5oq,5wf,5gj,5xx,5wp,5hz,5hf,5ug,5th,5gd,5or,5xy,5TWENTY-ONE,5TWENTY-TWO,5TWENTY-THREE",
   "5TWENTY-FOUR,5xz,5TWENTY-SIX,5TWENTY-SEVEN,5TWENTY-EIGHT,5TWENTY-NINE,5wq,5THIRTY-ONE,0uwGAL,+19c0",
   "0HEXAGRAMhuwiCREATIVE HEAVEN,3RECEPTIVEfz,2DIFFICULTY ATwiBEGINNING,2YOUTHFUL FOLLY,2WAITING",
   "2CONFLICT,2wiARMY,2jrTOGETHER,2ulTAMING,2TREADING,2PEACE,2STANDSTILL,2FELLOWSHIP,2GREAT POSSESSION",
   "2MODESTY,2ENTHUSIASM,2FOLLOWING,2WORK ONwiDECAYED,2APPROACH,2CONTEMPLATION,2BITINGwv,2GRACE",
   "2SPLITTING APART,2RETURN,2INNOCENCE,2GREAT TAMING,2oaCORNERS,2GREAT PREPONDERANCE,2wiABYSMALyx",
   "3CLINGINGhn,2INFLUENCE,2DURATION,2RETREAT,2GREAT POWER,2PROGRESS,2DARKENING OFwims,2wiFAMILY",
   "2OPPOSITION,2OBSTRUCTION,2DELIVERANCE,2DECREASE,2INCREASE,2BREAKTHROUGH,2COMING TO MEET",
   "2GATHERING TOGETHER,2PUSHING UPWARD,2OPPRESSION,2wiWELL,2REVOLUTION,2wiCAULDRON,3AROUSING THUNDER",
   "3KEEPING STILLnz,2DEVELOPMENT,2wiMARRYING MAIDEN,2ABUNDANCE,2wiWANDERER,3GENTLEzd,3JOYOUS LAKE",
   "2DISPERSION,2LIMITATION,2INNER TRUTH,2ulPREPONDERANCE,2AFTER COMPLETION,2BEFORE COMPLETION"]

end SdkGen.Text.Table
