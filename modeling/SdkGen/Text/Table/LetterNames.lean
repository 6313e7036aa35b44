/-!
# Names of letters

The names of the characters below 2000, which are mostly letters. The rows are read
by `CharacterName.find?`.
-/

namespace SdkGen.Text.Table

/-- The names of the characters below 2000, which are mostly letters. -/
def letterNames : List String :=
  ["+20,0ur,0gvnk,0rlnk,0peua,0fnua,0PERCENTua,0ao,0au,0mgqf,0rzqf,0be,0qqua,0dr,0jy,0icvd,0uo,0fhzv,1po",
   "1ya,1wu,1hy,1hq,1uf,1tg,1gc,1oq,0dp,0td,0mpua,0gpua,0ipua,0rknk,0dsAT,0mecpmqA,3B,3C,3D,3E,3F,3G,3H",
   "3I,3J,3K,3L,3M,3N,3O,3P,3Q,3R,3S,3T,3U,3V,3W,3X,3Y,3Z,0mguwch,0rsuo,0rzuwch,0dkad,0namt,0ioad",
   "0meulmqA,3B,3C,3D,3E,3F,3G,3H,3I,3J,3K,3L,3M,3N,3O,3P,3Q,3R,3S,3T,3U,3V,3W,3X,3Y,3Z,0mgeich,0ynmt",
   "0rzeich,0wy,+21,0NO-BREAKur,0kpgvnk,0CENTua,0POUNDua,0CURRENCYua,0YENua,0BROKENbo,0taua,0fa",
   "0COPYRIGHTua,0FEMININE ORDINALkg,0mifsaqrlnk,0oxua,0unjx,0REGISTEREDua,0ne,0DEGREEua,0PLUS-MINUSua",
   "0voya,1wu,0aead,0MICROua,0PILCROWua,0nsfo,0ct,0vopo,0MASCULINE ORDINALkg,0sbfsaqrlnk,0VULGARiaporh",
   "3iu,2wuri,0kprknk,0mecpmqAzeio,5ae,5dk,5wy,5fa,5sfac,3AE,3Czect,3Ezeio,5ae,5dk,5fa,3Izeio,5ae,5dk",
   "5fa,3ETH,3Nzewy,3Ozeio,5ae,5dk,5wy,5fa,0ofua,0mecpmqOzevf,3Uzeio,5ae,5dk,5fa,3Yzeae,3THORN",
   "1ulmqSHARP S,3Azeio,5ae,5dk,5wy,5fa,5sfac,3AE,3Czect,3Ezeio,5ae,5dk,5fa,3Izeio,5ae,5dk,5fa,3ETH",
   "3Nzewy,3Ozeio,5ae,5dk,5wy,5fa,0flua,0meulmqOzevf,3Uzeio,5ae,5dk,5fa,3Yzeae,3THORN,3Yzefa,1cpmqAzene",
   "1ulmqAzene,1cpmqAzeci,1ulmqAzeci,1cpmqAzepk,1ulmqAzepk,1cpmqCzeae,1ulmqCzeae,1cpmqCzedk,1ulmqCzedk",
   "1cpmqCzefoac,1ulmqCzefoac,1cpmqCzecr,1ulmqCzecr,1cpmqDzecr,1ulmqDzecr,1cpmqDzevf,1ulmqDzevf",
   "1cpmqEzene,1ulmqEzene,1cpmqEzeci,1ulmqEzeci,1cpmqEzefoac,1ulmqEzefoac,1cpmqEzepk,1ulmqEzepk",
   "1cpmqEzecr,1ulmqEzecr,1cpmqGzedk,1ulmqGzedk,1cpmqGzeci,1ulmqGzeci,1cpmqGzefoac,1ulmqGzefoac",
   "1cpmqGzect,1ulmqGzect,1cpmqHzedk,1ulmqHzedk,1cpmqHzevf,1ulmqHzevf,1cpmqIzewy,1ulmqIzewy,1cpmqIzene",
   "1ulmqIzene,1cpmqIzeci,1ulmqIzeci,1cpmqIzepk,1ulmqIzepk,1cpmqIzefoac,1ulmqfpI,1cpmrIJ,1ulmrIJ",
   "1cpmqJzedk,1ulmqJzedk,1cpmqKzect,1ulmqKzect,3KRA,1cpmqLzeae,1ulmqLzeae,1cpmqLzect,1ulmqLzect",
   "1cpmqLzecr,1ulmqLzecr,1cpmqLzensfo,1ulmqLzensfo,1cpmqLzevf,1ulmqLzevf,1cpmqNzeae,1ulmqNzeae",
   "1cpmqNzect,1ulmqNzect,1cpmqNzecr,1ulmqNzecr,4PRECEDED BYau,1cpmqENG,1ulmqENG,1cpmqOzene,1ulmqOzene",
   "1cpmqOzeci,1ulmqOzeci,1cpmqOzefsae,1ulmqOzefsae,1cpmrOE,1ulmrOE,1cpmqRzeae,1ulmqRzeae,1cpmqRzect",
   "1ulmqRzect,1cpmqRzecr,1ulmqRzecr,1cpmqSzeae,1ulmqSzeae,1cpmqSzedk,1ulmqSzedk,1cpmqSzect,1ulmqSzect",
   "1cpmqSzecr,1ulmqSzecr,1cpmqTzect,1ulmqTzect,1cpmqTzecr,1ulmqTzecr,1cpmqTzevf,1ulmqTzevf,1cpmqUzewy",
   "1ulmqUzewy,1cpmqUzene,1ulmqUzene,1cpmqUzeci,1ulmqUzeci,1cpmqUzesfac,1ulmqUzesfac,1cpmqUzefsae",
   "1ulmqUzefsae,1cpmqUzepk,1ulmqUzepk,1cpmqWzedk,1ulmqWzedk,1cpmqYzedk,1ulmqYzedk,1cpmqYzefa,3Zzeae",
   "1ulmqZzeae,1cpmqZzefoac,1ulmqZzefoac,1cpmqZzecr,1ulmqZzecr,3mxS,3Bzevf,1cpmqBzejs,5TOPBAR",
   "1ulmqBzeTOPBAR,1cpmqxauf,1ulmqxauf,1cpmqppO,3Czejs,1ulmqCzejs,1cpmqAFRICAN D,3Dzejs,5TOPBAR",
   "1ulmqDzeTOPBAR,3xuex,1cpmqrtE,3sv,3ppE,3Fzejs,1ulmqFzejs,1cpmqGzejs,3id,1ulmqHV,1cpmqkq,3Izevf",
   "3Kzejs,1ulmqKzejs,3Lzebo,3LAMBDAzevf,1cpmqxuM,3Nzemgjs,1ulmqNzemxrzmm,1cpmqOzenswy,5ju,1ulmqOzeju",
   "1cpmqOI,1ulmqOI,1cpmqPzejs,1ulmqPzejs,1mqYR,1cpmqxaya,1ulmqxaya,1cpmqgt,1mqrtgtmz,1ulmqTzeqbjs",
   "1cpmqTzejs,1ulmqTzejs,1cpmqTzerrjs,3Uzeju,1ulmqUzeju,1cpmqyi,3Vzejs,3Yzejs,1ulmqYzejs,1cpmqZzevf",
   "1ulmqZzevf,1cpmqEZH,4rt,1ulmqEZHrt,4zevw,1mqyazevf,1cpmqxahq,1ulmqxahq,1mqkpinvdzevf,2WYNN,2DENTALdl",
   "2LATERALdl,2ALVEOLARdl,2rrdl,1cpmqDZzecr,3DzeulmqZzecr,1ulmqDZzecr,1cpmqLJ,3LzeulmqJ,1ulmqLJ,1cpmqNJ",
   "3NzeulmqJ,1ulmqNJ,1cpmqAzecr,1ulmqAzecr,1cpmqIzecr,1ulmqIzecr,1cpmqOzecr,1ulmqOzecr,1cpmqUzecr",
   "1ulmqUzecr,1cpmqUzefaapne,1ulmqUzefaapne,1cpmqUzefaapae,1ulmqUzefaapae,1cpmqUzefaapcr,1ulmqUzefaapcr",
   "1cpmqUzefaapio,1ulmqUzefaapio,3xuE,1cpmqAzefaapne,1ulmqAzefaapne,1cpmqAzefoacapne,1ulmqAzefoacapne",
   "1cpmqAEzene,1ulmqAEzene,1cpmqGzevf,1ulmqGzevf,1cpmqGzecr,1ulmqGzecr,1cpmqKzecr,1ulmqKzecr,1cpmqOzepk",
   "1ulmqOzepk,1cpmqOzepkapne,1ulmqOzepkapne,1cpmqEZHzecr,1ulmqEZHzecr,3Jzecr,1cpmqDZ,3DzeulmqZ,1ulmqDZ",
   "1cpmqGzeae,1ulmqGzeae,1cpmqHWAIR,3WYNN,3Nzeio,1ulmqNzeio,1cpmqAzesfacapae,1ulmqAzesfacapae",
   "1cpmqAEzeae,1ulmqAEzeae,1cpmqOzevfapae,1ulmqOzevfapae,1cpmqAzefsio,1ulmqAzefsio,1cpmqAzekpci",
   "1ulmqAzekpci,1cpmqEzefsio,1ulmqEzefsio,1cpmqEzekpci,1ulmqEzekpci,1cpmqIzefsio,1ulmqIzefsio",
   "1cpmqIzekpci,1ulmqIzekpci,1cpmqOzefsio,1ulmqOzefsio,1cpmqOzekpci,1ulmqOzekpci,1cpmqRzefsio",
   "1ulmqRzefsio,1cpmqRzekpci,1ulmqRzekpci,1cpmqUzefsio,1ulmqUzefsio,1cpmqUzekpci,1ulmqUzekpci",
   "1cpmqSzedrbs,1ulmqSzedrbs,1cpmqTzedrbs,1ulmqTzedrbs,1cpmqYOGH,1ulmqYOGH,1cpmqHzecr,1ulmqHzecr",
   "1cpmqNzemxrzmm,1ulmqDzeeh,1cpmqOU,1ulmqOU,1cpmqZzejs,1ulmqZzejs,1cpmqAzefoac,1ulmqAzefoac,1cpmqEzect",
   "1ulmqEzect,1cpmqOzefaapne,1ulmqOzefaapne,1cpmqOzewyapne,1ulmqOzewyapne,1cpmqOzefoac,1ulmqOzefoac",
   "1cpmqOzefoacapne,1ulmqOzefoacapne,1cpmqYzene,1ulmqYzene,3Lzeeh,3Nzeeh,3Tzeeh,3fpJ,3DBfi,3QPfi",
   "1cpmqAzevf,3Czevf,1ulmqCzevf,1cpmqLzebo,3Tzefbvf,1ulmqSzeSWASHvw,3ZzeSWASHvw,1cpmqinvd,1ulmqinvd",
   "1cpmqBzevf,3Ubo,3xuV,3Ezevf,1ulmqEzevf,1cpmqJzevf,1ulmqJzevf,1cpmqulQzejsvw,1ulmqQzejsvw,1cpmqRzevf",
   "1ulmqRzevf,1cpmqYzevf,1ulmqYzevf,3xuA,3al,3xual,3Bzejs,3ppO,3Czeeh,3Dzevw,5js,3rtE,3sv,4zejs,3ppE",
   "3rtppE,6zejs,3dnrtppE,3fpJzevf,3Gzejs,3sxG,1mqulcpG,1ulmqid,3RAMSju,3xuH,3Hzejs,3HENGzejs,3Izevf,3kq",
   "1mqulcpI,1ulmqLzenswy,5BELT,5rrjs,3LEZH,3xuM,5zemxmm,3Mzejs,3Nzemgjs,5rrjs,1mqulcpN,1ulmqbqO",
   "1mqulcpOE,1ulmqdnpm,3qm,3xuR,5zemxmm,6js,3Rzemxmm,5vw,5hp,3rtRzehp,1mqulcpR,4kpR,1ulmqSzejs,3gt",
   "3fpJzevfapjs,3SQUATrtgt,3gtzeeh,3xuT,3Tzerrjs,3Ubo,3yi,3Vzejs,3xuV,4W,4Y,1mqulcpY,1ulmqZzerrjs,5eh",
   "3EZH,4zeeh,1mqinvd,2PHARYNGEALytFRICATIVE,2kpinvd,2STRETCHED C,2BILABIALdl,2ulcpB,1ulmqdnppE",
   "1mqulcpGzejs,4H,1ulmqJzeee,3xuK,1mqulcpL,1ulmqQzejs,1mqinvdzevf,2rtinvdzevf,1ulmqDZfi,3DEZHfi",
   "3DZfizeeh,3TSfi,3TESHfi,3TCfizeeh,3FENGfi,3LSfi,3LZfi,1mqBILABIAL PERCUSSIVE,2BIDENTAL PERCUSSIVE",
   "1ulmqxuHzehp,7apvw,0nwmqulH,4zejs,3J,3R,3xuR,5zejs,3cpkpR,3W,3Y,2qx,2fsqx,2xudr,2au,2rtdr,2rziusf",
   "2mgiusf,2invd,2rtinvd,2mgbb,2rzbb,2UPbb,2fvbb,2dkad,0cr,0nwmqynmt,2ne,2aead,2ioad,2naynmt,3ne,3ioad",
   "3aead,2xmdp,2iuxmdp,2cxrziusf,3mgiusf,2UPvu,2fvvu,2qqua,2nvua,0ci,0foac,0sfac,0pk,0ulwy,0fsaead",
   "0nwmqRHOTICjs,2ecad,2ulid,3L,3S,3X,3rtinvd,2EXTRA-HIGHxabo,2jnxabo,2MIDxabo,2naxabo,2EXTRA-LOWxabo",
   "2YIN DEPARTINGxank,2zkDEPARTINGxank,2VOICING,2UNASPIRATED,2fsau,2nafvbb,3UPbb,3mgbb,3rzbb,3sf",
   "2nsioad,3fsioad,4aead,2nawy,2rmdp,2BEGINjnxa,2gljnxa,2BEGINnaxa,2glnaxa,2SHELF,2ppSHELF,2namgba",
   "0dqioad,1aead,1dkad,1wy,1ne,1py,1ci,1foac,1fa,1jsac,1sfac,1fsaead,1cr,1ynmtac,1fsynmtac,2ioad,1co",
   "1kpci,1xudrac,1drac,1rtdrac,1dracrz,1ioadbs,1aeadbs,1mgvubs,1rzvubs,1mgaqac,1ju,1mgiusfbs,1UPvubs",
   "1fvvubs,1qquabs,1nvuabs,1PALATALIZEDjsbs,1rrjsbs,1fobs,1fabs,1sfbs,1drbs,1ct,1pk,1ynmtbs,1BRIDGEbs",
   "1kpfsARCHbs,1crbs,1dkadbs,1cibs,1kpcibs,1wybs,1nebs,1namt,1fsnamt,1wypx,1tvvfpx,1mxvfpx,1tvuopx",
   "1mxuopx,1rziusfbs,1kpBRIDGEbs,1uwbs,1SEAGULLbs,1Xac,1ynwy,1fspy,1ioxank,1aexank,1iqqj,2KORONIS,2fdxg",
   "2zp,1BRIDGEac,1gpuabs,1fsynmtbs,1mgaqbs,1oxwyac,1HOMOTHETICac,1ajgoTOac,1mgrzbabs,1yjbabs",
   "1GRAPHEMElc,1rzbbac,1mgiusfac,1FERMATA,1Xbs,1mgbbbs,1rzbbbs,3apUPbbbs,2iusfac,1foacrz,1bebs,1fssfbs",
   "1zzac,1fscibs,3,2ne,3bs,2wy,2kpci,2sebabs,1meulmqA,4E,4I,4O,4U,4C,4D,4H,4M,4R,4T,4V,4X,0iqcpmqHETA",
   "1ulmqHETA,1cpmqaySAMPI,1ulmqaySAMPI,1pfua,1nbpfua,1cpmqPAMPHYLIAN DIGAMMA,1ulmqPAMPHYLIAN DIGAMMA,+2",
   "1zp,1ulrtndtzvt,2frndtzvt,2rtfrndtzvt,1rknk,1cpmqYOT,+4,1xg,1fdxg,1cpmqalzexg,1ANO TELEIA",
   "1cpmqgnzexg,3guzexg,3kqzexg,+1,3pnzexg,+1,3yizexg,3pmzexg,1ulmqkqzefdapxg,1cpmqal,3bv,3id,3ex,3gn",
   "3zw,3gu,3wl,3kq,3lf,3ma,3MU,3NU,3XI,3pn,3PI,3ru,+1,3tz,3vz,3yi,3qm,3de,3ra,3pm,3kqzefd,3yizefd",
   "1ulmqalzexg,3gnzexg,3guzexg,3kqzexg,3yizefdapxg,3al,3bv,3id,3ex,3gn,3zw,3gu,3wl,3kq,3lf,3ma,3MU,3NU",
   "3XI,3pn,3PI,3ru,3hjtz,3tz,3vz,3yi,3qm,3de,3ra,3pm,3kqzefd,3yizefd,3pnzexg,3yizexg,3pmzexg,1cpKAIvt",
   "1bvvt,1wlvt,1yizejsvt,3aeapjsvt,3faapjsvt,1qmvt,1PIvt,1KAIvt,1mqayKOPPA,1ulmqayKOPPA,1mqSTIGMA",
   "1ulmqSTIGMA,1mqDIGAMMA,1ulmqDIGAMMA,1mqKOPPA,1ulmqKOPPA,1mqSAMPI,1ulmqSAMPI,0dycpmqSHEI,1ulmqSHEI",
   "1cpmqFEI,1ulmqFEI,1cpmqKHEI,1ulmqKHEI,1cpmqHORI,1ulmqHORI,1cpmqGANGIA,1ulmqGANGIA,1cpmqSHIMA",
   "1ulmqSHIMA,1cpmqDEI,1ulmqDEI,0iqlfvt,1ruvt,1ndtzvt,1mqYOT,1cpwlvt,1ndgnvt,1rtndgnvt,1cpmqSHO",
   "1ulmqSHO,1cpndtzvt,2mqSAN,1ulmqSAN,1ruzevfvt,1cprtndtzvt,2frndtzvt,2rtfrndtzvt,0elcpmqIEzeio,3IO",
   "3DJE,3GJE,3UKRAINIAN IE,3DZE,3BYELORUSSIAN-UKRAINIAN I,3YI,3JE,3LJE,3NJE,3TSHE,3KJE,3Izeio,3tvU",
   "3DZHE,3A,3BE,3VE,3ik,3DE,3IE,3zy,3ZE,3I,3tvI,3KA,3EL,3EM,3EN,3O,3PE,3ER,3ES,3TE,3U,3EF,3HA,3TSE,3db",
   "3tj,3SHCHA,3HARDua,3zn,3unua,3E,3YU,3YA,1ulmqA,3BE,3VE,3ik,3DE,3IE,3zy,3ZE,3I,3tvI,3KA,3EL,3EM,3EN",
   "3O,3PE,3ER,3ES,3TE,3U,3EF,3HA,3TSE,3db,3tj,3SHCHA,3HARDua,3zn,3unua,3E,3YU,3YA,3IEzeio,3IO,3DJE,3GJE",
   "3UKRAINIAN IE,3DZE,3BYELORUSSIAN-UKRAINIAN I,3YI,3JE,3LJE,3NJE,3TSHE,3KJE,3Izeio,3tvU,3DZHE,1cpmqpm",
   "1ulmqpm,1cpmqYAT,1ulmqYAT,1cpmqksE,1ulmqksE,1cpmqmuzq,1ulmqmuzq,1cpmqksmuzq,1ulmqksmuzq,1cpmqBIGzq",
   "1ulmqBIGzq,1cpmqksBIGzq,1ulmqksBIGzq,1cpmqKSI,1ulmqKSI,1cpmqra,1ulmqra,1cpmqFITA,1ulmqFITA,1cpmqkw",
   "1ulmqkw,1cpmqkwzefsioad,1ulmqkwzefsioad,1cpmqUK,1ulmqUK,1cpmqslpm,1ulmqslpm,1cpmqpmzeTITLO",
   "1ulmqpmzeTITLO,1cpmqOT,1ulmqOT,1cpmqKOPPA,1ulmqKOPPA,1wtua,0dqelTITLO,2PALATALIZATION,2etPNEUMATA",
   "2rbPNEUMATA,2POKRYTIE,2jwwtua,2nuua,0elcpmqtvIzevw,1ulmqtvIzevw,1cpmqSEMISOFTua,1ulmqSEMISOFTua",
   "1cpmqERzeTICK,1ulmqERzeTICK,1cpmqikzeUPTURN,1ulmqikzeUPTURN,1cpmqikzevf,1ulmqikzevf,1cpmqikzensjs",
   "1ulmqikzensjs,1cpmqzyzeey,1ulmqzyzeey,1cpmqZEzeey,1ulmqZEzeey,1cpmqKAzeey,1ulmqKAzeey,1cpmqKAzeynvf",
   "1ulmqKAzeynvf,1cpmqKAzevf,1ulmqKAzevf,1cpmqBASHKIR KA,1ulmqBASHKIR KA,1cpmqENzeey,1ulmqENzeey",
   "1cpmrENik,1ulmrENik,1cpmqPEzensjs,1ulmqPEzensjs,1cpmqabHA,1ulmqabHA,1cpmqESzeey,1ulmqESzeey",
   "1cpmqTEzeey,1ulmqTEzeey,1cpmqveU,1ulmqveU,1cpmqveUzevf,1ulmqveUzevf,1cpmqHAzeey,1ulmqHAzeey",
   "1cpmrTE TSE,1ulmrTE TSE,1cpmqdbzeey,1ulmqdbzeey,1cpmqdbzeynvf,1ulmqdbzeynvf,1cpmqSHHA,1ulmqSHHA",
   "1cpmqabdb,1ulmqabdb,1cpmqabdbzeey,1ulmqabdbzeey,1mqPALOCHKA,1cpmqzyzeci,1ulmqzyzeci,1cpmqKAzejs",
   "1ulmqKAzejs,1cpmqELzevw,1ulmqELzevw,1cpmqENzejs,1ulmqENzejs,1cpmqENzevw,1ulmqENzevw",
   "1cpmqKHAKASSIANdb,1ulmqKHAKASSIANdb,1cpmqEMzevw,1ulmqEMzevw,3PALOCHKA,1cpmqAzeci,1ulmqAzeci",
   "1cpmqAzefa,1ulmqAzefa,1cpmrA IE,1ulmrA IE,1cpmqIEzeci,1ulmqIEzeci,1cpmqsv,1ulmqsv,1cpmqsvzefa",
   "1ulmqsvzefa,1cpmqzyzefa,1ulmqzyzefa,1cpmqZEzefa,1ulmqZEzefa,1cpmqabDZE,1ulmqabDZE,1cpmqIzene",
   "1ulmqIzene,1cpmqIzefa,1ulmqIzefa,1cpmqOzefa,1ulmqOzefa,1cpmqbqO,1ulmqbqO,1cpmqbqOzefa,1ulmqbqOzefa",
   "1cpmqEzefa,1ulmqEzefa,1cpmqUzene,1ulmqUzene,1cpmqUzefa,1ulmqUzefa,1cpmqUzefsae,1ulmqUzefsae",
   "1cpmqdbzefa,1ulmqdbzefa,1cpmqikzeey,1ulmqikzeey,1cpmqznzefa,1ulmqznzefa,1cpmqikzevfapjs",
   "1ulmqikzevfapjs,1cpmqHAzejs,1ulmqHAzejs,1cpmqHAzevf,1ulmqHAzevf,1cpmqlvDE,1ulmqlvDE,1cpmqlvDJE",
   "1ulmqlvDJE,1cpmqlvZJE,1ulmqlvZJE,1cpmqlvDZJE,1ulmqlvDZJE,1cpmqlvLJE,1ulmqlvLJE,1cpmqlvNJE,1ulmqlvNJE",
   "1cpmqlvSJE,1ulmqlvSJE,1cpmqlvTJE,1ulmqlvTJE,1cpmqrtZE,1ulmqrtZE,1cpmqELzejs,1ulmqELzejs,1cpmqLHA",
   "1ulmqLHA,1cpmqRHA,1ulmqRHA,1cpmqYAE,1ulmqYAE,1cpmqQA,1ulmqQA,1cpmqWE,1ulmqWE,1cpmqALEUT KA",
   "1ulmqALEUT KA,1cpmqELzensjs,1ulmqELzensjs,1cpmqENzensjs,1ulmqENzensjs,1cpmqPEzeey,1ulmqPEzeey",
   "1cpmqSHHAzeey,1ulmqSHHAzeey,1cpmqENzemgjs,1ulmqENzemgjs,1cpmqDZZHE,1ulmqDZZHE,1cpmqDCHE,1ulmqDCHE",
   "1cpmqELzeey,1ulmqELzeey,+1,0ARMENIANcpmqAYB,3BEN,3GIM,3DA,3ECH,3ZA,3EH,3ET,3TO,3zy,3INI,3LIWN,3XEH",
   "3CA,3KEN,3HO,3JA,3GHAD,3CHEH,3MEN,3YI,3NOW,3tj,3VO,3cy,3PEH,3JHEH,3RA,3SEH,3VEW,3TIWN,3ro,3CO,3YIWN",
   "3PIWR,3KEH,3OH,3he,+2,1nwmqmgiusf,1au,1EMPHASISnk,1gvnk,1dr,1rknk,1aank,1ulmqxuAYB,3AYB,3BEN,3GIM",
   "3DA,3ECH,3ZA,3EH,3ET,3TO,3zy,3INI,3LIWN,3XEH,3CA,3KEN,3HO,3JA,3GHAD,3CHEH,3MEN,3YI,3NOW,3tj,3VO,3cy",
   "3PEH,3JHEH,3RA,3SEH,3VEW,3TIWN,3ro,3CO,3YIWN,3PIWR,3KEH,3OH,3he,2mrECH YIWN,2mqYIzevf,1icvd,1jx,+2",
   "0saARMENIAN ETERNITYua,0mhARMENIAN ETERNITYua,0ARMENIAN DRAMua,+1,0HEBREWadETNAHTA,2SEGOL",
   "2SHALSHELET,2ZAQEF QATAN,3GADOL,2TIPEHA,2REVIA,2ZARQA,2PASHTA,2YETIV,2TEVIR,2GERESH,3MUQDAM",
   "2GERSHAYIM,2QARNEY PARA,2TELISHA GEDOLA,2PAZER,2ATNAH HAFUKH,2MUNAH,2MAHAPAKH,2MERKHA,3KEFULA,2DARGA",
   "2QADMA,2TELISHA QETANA,2YERAH BEN YOMO,2OLE,2ILUY,2DEHI,2ZINOR,1nkMASORAdh,1qrSHEVA,2HATAF SEGOL",
   "3PATAH,3QAMATS,2HIRIQ,2TSERE,2SEGOL,2PATAH,2QAMATS,2HOLAM,3HASERhuVAV,2QUBUTS,2enOR MAPIQ,2METEG",
   "1rcMAQAF,1qrRAFE,1rcPASEQ,1qrtufo,2SINfo,1rcSOF PASUQ,1nkyhfo,2nbfo,1rcpgHAFUKHA,1qrQAMATS QATAN,+8",
   "1mqah,2BET,2il,2DALET,2HE,2VAV,2zu,2HET,2TET,2YOD,2hjld,2ld,2LAMED,2hjnr,2nr,2hjpg,2pg,2ss,2bh,2hjPE",
   "2PE,2hjTSADI,2TSADI,2QOF,2rp,2tu,2TAV,+4,1YODxk,1mrYIDDISHfsVAV,3VAV YOD,3fsYOD,1rcGERESH,2GERSHAYIM",
   "+b,0awpeua,1uaSANAH,1FOOTNOTEnl,1uaSAFHA,2SAMVAT,1penkac,0axCUBE ROOT,1FOURTH ROOT,0awRAY",
   "0axPER MILLEua,2wfwsua,0AFGHANIua,0awdr,1DATEtf,1POETIC VERSEua,1uaMISRA",
   "2SALLALLAHOU ALAYHE WASSALLAM,2ALAYHE ASSALLAM,2RAHMATULLAH ALAYHE,2RADI ALLAHOU ANHU,2TAKHALLUS",
   "1uljnvv,3mrahzelzzezl,3zr,2hc,2ep,2li,1td,1mqnk,1glOF TEXTnk,1xnforcnk,1rknk,1mqKASHMIRIzl,2iv",
   "2ahzenfac,4ivac,2yzzeivac,2ahzeivbs,2zlzeivac,2ah,2br,2wdMARBUTA,3,2wj,2kz,2it,2ln,2DAL,2THAL,2ro",
   "2zr,2tb,2tr,2sp,2em,2vv,2ZAH,2af,2ij,2KEHEHzeyafqac,4wufqbs,2FARSIzlzekpV,5yafqac,5wufqac,1TATWEEL",
   "1mqhe,2rd,2ld,2lz,2nq,2ou,2jl,2yz,2ahni,2zl,1hd,1DAMMATAN,1KASRATAN,1hc,1ep,1li,1SHADDA,1SUKUN",
   "1MADDAHac,1ivac,2bs,1vjah,1kpep,1nkouGHUNNA,1ZWARAKAY,1yvuaulVac,3kpulVac,3fobs,1rtep,1hczeyafq",
   "1WAVYivbs,0axfhzv,2po,2ya,2wu,2hy,2hq,2uf,2tg,2gc,2oq,0awPERCENTua,1DECIMALtf,1wttf,1hqqsvb,1mqfpbr",
   "3rd,2voah,2ahWASLA,3zeWAVYivac,6bs,2jniv,4ah,4yz,2Uzeivac,2jnivzl,2TTEH,2TTEHEH,2BEEH,2wdzesf",
   "4wufqacfx,2PEH,2TEHEH,2BEHEH,2itzeivac,4yafqynac,2NYEH,2DYEH,2itzewufqac,2TCHEH,2TCHEHEH,2DDAL",
   "2DALzesf,4fobs,6apulvv,2DAHAL,2DDAHAL,2DUL,2DALzewufqacfx,4hyfqac,2RREH,2rozeulV,4sf,4fobs,4ulVbs",
   "4fobsapfoac,4yafqac,2JEH,2rozehyfqac,2tbzefobsapfoac,4wufqbs,7apwufqac,2spzeyafqbs,4wufqac",
   "2vvzewufqac,2afzewufqac,2fphe,2hezefoMOVEDbs,5bs,2VEH,2hezewufqbs,2PEHEH,2rdzefoac,4wufqac,2KEHEH",
   "2SWASHld,2ldzesf,4foac,2NG,2ldzewufqbs,2GAF,3zesf,2NGOEH,2GAFzeyafqbs,2GUEH,2GAFzewufqac,2lzzeulV",
   "4foac,4wufqac,6bs,2ouzefobs,3GHUNNA,2RNOON,2ouzesf,4wufqac,2jlDOACHASHMEE,2TCHEHzefoac,2jlzezlac",
   "3GOAL,4zeivac,2wdMARBUTA GOAL,2yzzesf,2KIRGHIZ OE,2OE,2U,2YU,2KIRGHIZ YU,2yzzeyafqac,2VE,2FARSIzl",
   "2zlzevw,4ulV,2yzzefoac,2E,2zlzewufqbs,3BARREE,4zeivac,1icvd,1mqAE,1uljnmrspzelzzeahni,4rdzelzzeahni",
   "3nqkihv,3lzah,3kz,3wufq,3tb,1glOF AYAH,1START OF RUB EL HIZB,1uljnsmzv,3UPRIGHT RECTANGULARzv",
   "3fpjhOFln,3nqkthv,2natb,2jnnf,2yz,2zl,2jnzl,3ou,1PLACE OF SAJDAH,1EMPTYcwnavd,3jnvd",
   "1smjnvdzeFILLEDcw,1ulnanq,1mqDALzekpV,2rozekpV,0gwaxfhzv,3po,3ya,3wu,3hy,3hq,3uf,3tg,3gc,3oq",
   "0awmqtrzefobs,2emzefobs,2ijzefobs,1uaSINDHIao,3POSTPOSITION MEN,1mqjlzekpV,0SYRIACglOFqd",
   "1SUPRALINEARicvd,1SUBLINEARicvd,1SUPRALINEARdp,1SUBLINEARdp,1jtdp,1dpSKEWEDmg,3rz",
   "1SUPRALINEARdpSKEWEDmg,1SUBLINEARdpSKEWEDrz,1CONTRACTION,1HARKLEAN OBELUS,2METOBELUS,2ASTERISCUS,+1",
   "1aank,1mqALAPH,2voALAPH,2bw,2GAMAL,3GARSHUNI,2DALATH,2fpDALATH RISH,2HE,2yz,2zr,2jm,2TETH,3GARSHUNI",
   "2YUDH,3HE,2le,2LAMADH,2MIM,2pg,2SEMKATH,2hjSEMKATH,2E,2PE,2rtPE,2sq,2QAPH,2RISH,2tu,2wa",
   "2PERSIAN BHETH,3GHAMAL,3DHALATH,1PTHAHAac,2bs,2fr,1ZQAPHAac,2bs,2fr,1RBASAac,2bs,1frZLAMAjt,3ANGULAR",
   "1HBASAac,2bs,1HBASA-ESASAfr,1ESASAac,2bs,1RWAHA,1FEMININEfo,1QUSHSHAYA,1RUKKAKHA,1yaynfqac,4bs",
   "1wufqac,3bs,1pimtac,3bs,1MUSIC,1BARREKH,+2,1mqSOGDIAN ZHAIN,3KHAPH,3FE,0awmqbrzewufqHORIZONTALLYbs",
   "4fobsapwufqac,4wufqqtyjbs,9apyafqac,4yafqbsapfoac,4kpulVbs,4ulV,2itzeyafqac,4wufqqtyjbs",
   "2DALzeyafqyobsapulvv,4kpulVbs,2rozevf,2tbzehyfqac,2afzeyafqac,4wufqqtfxac,4yafqyoac,2hezeyafqbs",
   "4wufqqtyjbs,2KEHEHzefoac,4wufqac,6qtyjbs,2nqzefoac,5bs,2ouzeyafqbs,4ulvv,5V,2lzzebo,2rozeyafqyoac",
   "4ivac,2tbzeyafqyoac,2itzeulawmqvvbs,8apyafq,2tbzeulawmqvvapyafq,2rozeulawmqvvapyafq,2itzeulawmqvvac",
   "2ahzegwaxfhyaac,7wuac,2FARSIzlzegwaxfhyaac,8wuac,8hybs,2yzzegwaxfhyaac,7wuac,2zlBARREEzegwaxfhyaac",
   "8wuac,2itzegwaxfhhybs,2tbzegwaxfhhyac,4kpV,2ldzeyafqac,0THAANAmqHAA,2SHAVIYANI,2NOONU,2RAA,2BAA",
   "2LHAVIYANI,2KAAFU,2ALIFU,2VAAVU,2MEEMU,2FAAFU,2DHAALU,2THAA,2LAAMU,2GAAFU,2GNAVIYANI,2SEENU",
   "2DAVIYANI,2ZAVIYANI,2TAVIYANI,2YAA,2PAVIYANI,2JAVIYANI,2CHAVIYANI,2TTAA,2HHAA,2KHAA,2THAALU,2ZAA",
   "2SHEENU,2SAADHU,2DAADHU,2TO,2ZO,2AINU,2GHAINU,2QAAFU,2WAAVU,1ABAFILI,1AABAAFILI,1IBIFILI,1EEBEEFILI",
   "1UBUFILI,1OOBOOFILI,1EBEFILI,1EYBEYFILI,1OBOFILI,1OABOAFILI,1SUKUN,1mqNAA,+e,0NKOfhzv,2po,2ya,2wu",
   "2hy,2hq,2uf,2tg,2gc,2oq,1mqA,2EE,2I,2E,2U,2OO,2O,2DAGBASINNA,2N,2BA,2PA,2TA,2JA,2cy,2DA,2RA,2sn,2SA",
   "2GBA,2FA,2KA,2LA,2NA WOLOSO,2MA,2ph,2NA,2HA,2WA,2YA,2phWOLOSO,2JONA JA,3cy,3RA,1dqtvjnxa,3naxa,3sgxa",
   "2mxDESCENDINGxa,3jnxa,3naxa,3sgxa,2NASALIZATIONnk,2fsfoac,1jnxaau,1naxaau,1vtOO DENNEN,2GBAKURUNEN",
   "1dr,1gvnk,1LAJANYALAN,+2,1DANTAYALAN,1DOROMEua,1TAMANua,0SAMARITANmqALAF,2BIT,2GAMAN,2DALAT,2IY,2BAA",
   "2ZEN,2IT,2TIT,2YUT,2KAAF,2LABAT,2MIM,2pg,2SINGAAT,2IN,2FI,2TSAADIY,2QUF,2RISH,2to,2TAAF,1nkIN",
   "2IN-ALAF,2OCCLUSION,2en,1nwmqEPENTHETIC YUT,1nkEPENTHETIC YUT,1yvuamxE,3E,3OVERLONG AA,3mxAA,3AA",
   "3OVERLONG A,3mxA,3A,1nwmqtvA,1yvuatvA,3mxU,3U,1nwmqI,1yvuamxI,3I,3O,3SUKUN,1nkNEQUDAA,+2,1rcNEQUDAA",
   "2AFSAAQ,2ANGED,2BAU,2ATMAAU,2SHIYYAALAA,1aank,1rcMELODIC QITSA,2ZIQAA,2QITSA,2ZAEF,2TURU,2ARKAANU",
   "2SOF MASHFAAT,2ANNAAU,+1,0MANDAICmqHALQA,2AB,2AG,2AD,2AH,2USHENNA,2AZ,2IT,2ATT,2AKSA,2AK,2AL,2AM,2AN",
   "2AS,2IN,2AP,2ASZ,2AQ,2AR,2bd,2AT,2DUSHENNA,2KAD,2af,1AFFRICATIONnk,1VOCALIZATIONnk,1ignk,+2,1rc,+1",
   "0SYRIACmqMALAYALAMon,3JA,3ph,3xr,3ot,3NNNA,3by,3RA,3mv,3LLLA,3uy,+5,0awmqahzebfhc,5xhrzhc,4rznsvf",
   "4mgnsvf,4bfli,5cfrzli,5slfoac,5rzslfo,5mgslfo,5slfobs,4foac,4bfxhrzhcapfoac,4rznsvfapfoac",
   "4bfcfrzliapfoac,5xhrzhcapmgsf,4rznsvfapmgsf,4bfcfrzliapmgsf,5rziv,5mgiv,1TATWEELzeOVERSTRUCKiv,4yz",
   "3yafqbs,1mqTHINzl,1BASELINEslfo,1rmslfo,1mqouzekpulV,2itzekpulVbs,2vvzefobs,4wufqbs,2KEHEHzeyafqyobs",
   "1ynvw,+1,1POUNDnkac,1PIASTREnkac,+6,1uljnzgAL-JUZ,2nazgISHMAAM,4IMAALA,4TASHEEL,1nfWAAJIB",
   "1voahMOKHASSAS,1DOUBLEDnf,1iunfpvnf,1mqbrzeulVbs,4ivac,2kzzeyafqac,2vvzeyafqac,2hezefobsapwufqac",
   "2rdzefobs,2lzzefsbo,2nqzewufqac,2zlzeyafqbsapivac,8foac,2rozemz,2yzzefozf,2ROHINGYAzl,2naah",
   "2DALzewufqbs,2spzewufqbs,2GAFzekpvf,2veyz,2zrzekpVac,2afzewufqbs,2ldzefobs,2rdzefobsapNOfqac",
   "2brzeulnqac,2PEHzeulnqac,2wdzeulwdac,2rozeulouac,2zlzeyafqbsapulouac,2AFRICANhe,3rd,3ou,2PEHzeulV",
   "2wdzeulV,2TTEHzeulV,2TCHEHzeulV,2KEHEHzeulV,2ijzewufqac,2AFRICANrdzewufqac,2kzzewufqac,6bs",
   "2lzzeulawmqvvac,2GRAF,1ulFARSIzl,2jnFARSIzl,3zlBARREEzeyafqbs,3zgSAH,3ZAH,1mcslfoac,4bs,1SUKUNbs",
   "1mcdhbs,2slfokjdhbs,1ulnayz,2jnzgAR-RUB,3sp,3af,3rd,3ouzeli,2naouzeli,2jnzgATH-THALATHA,4AS-SAJDA",
   "4AN-NISF,4SAKTA,4QIF,4WAQFA,3FOOTNOTEnl,3uaSAFHA,1DISPUTEDglOF AYAH,1xuepbs,1eihc,2ep,2li,2hd",
   "2DAMMATAN,2KASRATAN,1xapofoac,2yafqac,2mzac,2pofobs,2yafqbs,2mzbs,1pphd,2DAMMATAN,2KASRATAN,1uljnyz",
   "1hczesf,3foac,1lizefobs,1mgbbac,1rzbbac,1mgbbbs,1rzbbbs,1fsrzbbac,5zefo,1rzbbaczefo,1epzefo",
   "1nktyouGHUNNA,0DEVANAGARIuakpco,2co,2at,2yr,1mqtvA,2A,2AA,2I,2II,2U,2UU,2ysR,3L,2cnE,2tvE,2E,2AI",
   "2cnO,2tvO,2O,2AU,2KA,2lm,2GA,2ii,2on,2CA,2cy,2JA,2la,2ph,2xr,2xs,2eu,2ev,2ot,2TA,2wh,2DA,2ez,2NA",
   "2NNNA,2PA,2ql,2BA,2by,2MA,2YA,2RA,2sn,2LA,2mv,2LLLA,2VA,2tj,2uy,2SA,2HA,1yvuaOE,3OOE,1uapd,2bg",
   "1yvuaAA,3I,3II,3U,3UU,3ysR,4RR,3cnE,3tvE,3E,3AI,3cnO,3tvO,3O,3AU,1uayq,1yvuaPRISHTHAMATRA E,3AW,1OM",
   "1STRESSuaUDATTA,3ANUDATTA,1ioad,1aead,1yvuacnmxE,3UE,3UUE,1mqQA,2KHHA,2GHHA,2ZA,2DDDHA,2RHA,2FA,2YYA",
   "2ysRR,3LL,1yvuaysL,4LL,1eq,1fseq,1fhzv,2po,2ya,2wu,2hy,2hq,2uf,2tg,2gc,2oq,1aaua,1uajnSPACINGfo",
   "1mqcnA,2OE,2OOE,2AW,2UE,2UUE,2MARWARIeu,2zx,2jkYA,2GGA,2JJA,2invd,2DDDA,2BBA,0BENGALI ANJI,1uaco,2at",
   "2yr,+1,1mqA,2AA,2I,2II,2U,2UU,2ysR,3L,+2,2E,2AI,+2,2O,2AU,2KA,2lm,2GA,2ii,2on,2CA,2cy,2JA,2la,2ph",
   "2xr,2xs,2eu,2ev,2ot,2TA,2wh,2DA,2ez,2NA,+1,2PA,2ql,2BA,2by,2MA,2YA,2RA,+1,2LA,+3,2tj,2uy,2SA,2HA,+2",
   "1uapd,2bg,1yvuaAA,3I,3II,3U,3UU,3ysR,4RR,+2,3E,3AI,+2,3O,3AU,1uayq,1mqKHANDA TA,+8,1AUmnnk,+4,1mqsn",
   "2RHA,+1,2YYA,2ysRR,3LL,1yvuaysL,4LL,+2,1fhzv,2po,2ya,2wu,2hy,2hq,2uf,2tg,2gc,2oq,1mqRAzensfb,4nbfb",
   "1RUPEEnk,2ua,1CURRENCY NUMERATORpo,3ya,3wu,3hy,3poLESS THANwiDENOMINATOR,2DENOMINATORug,1ISSHAR",
   "1GANDAnk,1mqVEDICat,1aaua,1SANDHInk,+2,0GURMUKHIuaADAK BINDI,2BINDI,2yr,+1,1mqA,2AA,2I,2II,2U,2UU,+4",
   "2EE,2AI,+2,2OO,2AU,2KA,2lm,2GA,2ii,2on,2CA,2cy,2JA,2la,2ph,2xr,2xs,2eu,2ev,2ot,2TA,2wh,2DA,2ez,2NA",
   "+1,2PA,2ql,2BA,2by,2MA,2YA,2RA,+1,2LA,2mv,+1,2VA,2tj,+1,2SA,2HA,+2,1uapd,+1,1yvuaAA,3I,3II,3U,3UU,+4",
   "3EE,3AI,+2,3OO,3AU,1uayq,+3,2UDAAT,+7,1mqKHHA,2GHHA,2ZA,2sn,+1,2FA,+7,1fhzv,2po,2ya,2wu,2hy,2hq,2uf",
   "2tg,2gc,2oq,1TIPPI,1ADDAK,1IRI,1URA,1EK ONKAR,1uaYAKASH,1aaua,+a,0GUJARATIuaco,2at,2yr,+1,1mqA,2AA",
   "2I,2II,2U,2UU,2ysR,3L,1yvcnE,+1,1mqE,2AI,1yvcnO,+1,1mqO,2AU,2KA,2lm,2GA,2ii,2on,2CA,2cy,2JA,2la,2ph",
   "2xr,2xs,2eu,2ev,2ot,2TA,2wh,2DA,2ez,2NA,+1,2PA,2ql,2BA,2by,2MA,2YA,2RA,+1,2LA,2mv,+1,2VA,2tj,2uy,2SA",
   "2HA,+2,1uapd,2bg,1yvuaAA,3I,3II,3U,3UU,3ysR,4RR,3cnE,+1,3E,3AI,3cnO,+1,3O,3AU,1uayq,+2,1OM,+f",
   "1mqysRR,3LL,1yvuaysL,4LL,+2,1fhzv,2po,2ya,2wu,2hy,2hq,2uf,2tg,2gc,2oq,1aaua,1RUPEEua,+7,1mqzx",
   "1uaSUKUN,2SHADDA,2MADDAH,2THREE-DOTpdac,2dhpdac,2TWO-CIRCLEpdac,+1,0ORIYAuaco,2at,2yr,+1,1mqA,2AA,2I",
   "2II,2U,2UU,2ysR,3L,+2,2E,2AI,+2,2O,2AU,2KA,2lm,2GA,2ii,2on,2CA,2cy,2JA,2la,2ph,2xr,2xs,2eu,2ev,2ot",
   "2TA,2wh,2DA,2ez,2NA,+1,2PA,2ql,2BA,2by,2MA,2YA,2RA,+1,2LA,2mv,+1,2VA,2tj,2uy,2SA,2HA,+2,1uapd,2bg",
   "1yvuaAA,3I,3II,3U,3UU,3ysR,4RR,+2,3E,3AI,+2,3O,3AU,1uayq,+7,2py,1AImnnk,1AUmnnk,+4,1mqsn,2RHA,+1",
   "2YYA,2ysRR,3LL,1yvuaysL,4LL,+2,1fhzv,2po,2ya,2wu,2hy,2hq,2uf,2tg,2gc,2oq,1ISSHAR,1mqWA,1iaporh,3iu",
   "2wuri,2pouh,3ge,2wuSIXTEENTHS,+a,0TAMILuaat,2yr,+1,1mqA,2AA,2I,2II,2U,2UU,+3,2E,2EE,2AI,+1,2O,2OO",
   "2AU,2KA,+3,2on,2CA,+1,2JA,+1,2ph,2xr,+3,2ot,2TA,+3,2NA,2NNNA,2PA,+3,2MA,2YA,2RA,2sn,2LA,2mv,2LLLA",
   "2VA,2tj,2uy,2SA,2HA,+4,1yvuaAA,3I,3II,3U,3UU,+3,3E,3EE,3AI,+1,3O,3OO,3AU,1uayq,+2,1OM,+6,1AUmnnk,+e",
   "1fhzv,2po,2ya,2wu,2hy,2hq,2uf,2tg,2gc,2oq,1pewf,2pojw,3ws,1DAYua,1MONTHua,1YEARua,1DEBITua,1CREDITua",
   "1ASacua,1RUPEEua,1peua,+5,0TELUGUuadqcoac,2co,2at,2yr,2dqatac,1mqA,2AA,2I,2II,2U,2UU,2ysR,3L,+1,2E",
   "2EE,2AI,+1,2O,2OO,2AU,2KA,2lm,2GA,2ii,2on,2CA,2cy,2JA,2la,2ph,2xr,2xs,2eu,2ev,2ot,2TA,2wh,2DA,2ez",
   "2NA,+1,2PA,2ql,2BA,2by,2MA,2YA,2RA,2sn,2LA,2mv,2LLLA,2VA,2tj,2uy,2SA,2HA,+2,1uapd,2bg,1yvuaAA,3I,3II",
   "3U,3UU,3ysR,4RR,+1,3E,3EE,3AI,+1,3O,3OO,3AU,1uayq,+7,1mnnk,1AImnnk,+1,1mqxo,2DZA,2RRRA,+2",
   "2NAKAARA POLLU,+2,2ysRR,3LL,1yvuaysL,4LL,+2,1fhzv,2po,2ya,2wu,2hy,2hq,2uf,2tg,2gc,2oq,+7,1uatw",
   "1iafhzvhuODDqvOFhy,3pohuODDqvOFhy,3yahuODDqvOFhy,3wuhuODDqvOFhy,3pohuEVENqvOFhy,3yahuEVENqvOFhy",
   "3wuhuEVENqvOFhy,1uaTUUMU,0KANNADAuaSPACINGco,2co,2at,2yr,2tw,1mqA,2AA,2I,2II,2U,2UU,2ysR,3L,+1,2E",
   "2EE,2AI,+1,2O,2OO,2AU,2KA,2lm,2GA,2ii,2on,2CA,2cy,2JA,2la,2ph,2xr,2xs,2eu,2ev,2ot,2TA,2wh,2DA,2ez",
   "2NA,+1,2PA,2ql,2BA,2by,2MA,2YA,2RA,2sn,2LA,2mv,+1,2VA,2tj,2uy,2SA,2HA,+2,1uapd,2bg,1yvuaAA,3I,3II,3U",
   "3UU,3ysR,4RR,+1,3E,3EE,3AI,+1,3O,3OO,3AU,1uayq,+7,1mnnk,1AImnnk,+6,1mqNAKAARA POLLU,2FA,+1,2ysRR,3LL",
   "1yvuaysL,4LL,+2,1fhzv,2po,2ya,2wu,2hy,2hq,2uf,2tg,2gc,2oq,+1,1ualb,2yg,+d,0MALAYALAMuadqatac,2co,2at",
   "2yr,1mqVEDICat,2A,2AA,2I,2II,2U,2UU,2ysR,3L,+1,2E,2EE,2AI,+1,2O,2OO,2AU,2KA,2lm,2GA,2ii,2on,2CA,2cy",
   "2JA,2la,2ph,2xr,2xs,2eu,2ev,2ot,2TA,2wh,2DA,2ez,2NA,2NNNA,2PA,2ql,2BA,2by,2MA,2YA,2RA,2sn,2LA,2mv",
   "2LLLA,2VA,2tj,2uy,2SA,2HA,2TTTA,1uaynboyq,2CIRCULARyq,2bg,1yvuaAA,3I,3II,3U,3UU,3ysR,4RR,+1,3E,3EE",
   "3AI,+1,3O,3OO,3AU,1uayq,1mqfoREPH,1uaPARA,+4,1mqCHILLU M,3Y,3LLL,1AUmnnk",
   "1iapoONE-HUNDRED-AND-SIXTIETH,3FORTIETH,2wuEIGHTIETHS,2poTWENTIETH,3TENTH,2wuTWENTIETHS,2poFIFTH",
   "1mqayII,2ysRR,3LL,1yvuaysL,4LL,+2,1fhzv,2po,2ya,2wu,2hy,2hq,2uf,2tg,2gc,2oq,1pewf,2pojw,3ws,1iaporh",
   "3iu,2wuri,2pouh,3ge,2wuSIXTEENTHS,1DATEnk,1mqCHILLU NN,3N,3RR,3L,3LL,3K,+1,0SINHALAuaco,2ANUSVARAYA",
   "2VISARGAYA,+1,1mqAYANNA,2AAYANNA,2AEYANNA,2AEEYANNA,2IYANNA,2IIYANNA,2UYANNA,2UUYANNA,2IRUYANNA",
   "2IRUUYANNA,2ILUYANNA,2ILUUYANNA,2EYANNA,2EEYANNA,2AIYANNA,2OYANNA,2OOYANNA,2AUYANNA,+3,2akKAYANNA",
   "2ngKAYANNA,2akGAYANNA,2ngGAYANNA,2KANTAJA NAASIKYAYA,2SANYAKA GAYANNA,2akCAYANNA,2ngCAYANNA",
   "2akJAYANNA,2ngJAYANNA,2TAALUJA NAASIKYAYA,3SANYOOGA NAAKSIKYAYA,2SANYAKA JAYANNA,2akTTAYANNA",
   "2ngTTAYANNA,2akDDAYANNA,2ngDDAYANNA,2MUURDHAJA NAYANNA,2SANYAKA DDAYANNA,2akTAYANNA,2ngTAYANNA",
   "2akDAYANNA,2ngDAYANNA,2DANTAJA NAYANNA,+1,2SANYAKA DAYANNA,2akPAYANNA,2ngPAYANNA,2akBAYANNA",
   "2ngBAYANNA,2MAYANNA,2AMBA BAYANNA,2YAYANNA,2RAYANNA,+1,2DANTAJA LAYANNA,+2,2VAYANNA,2TAALUJA SAYANNA",
   "2MUURDHAJA SAYANNA,2DANTAJA SAYANNA,2HAYANNA,2MUURDHAJA LAYANNA,2FAYANNA,+3,1uaAL-LAKUNA,+4",
   "1yvuaAELA-PILLA,3KETTI AEDA-PILLA,3DIGA AEDA-PILLA,3KETTI IS-PILLA,3DIGA IS-PILLA,3KETTI PAA-PILLA",
   "+1,3DIGA PAA-PILLA,+1,3GAETTA-PILLA,3KOMBUVA,3DIGA KOMBUVA,3KOMBU DEKA,3KOMBUVA HAA AELA-PILLA",
   "5DIGA AELA-PILLA,5GAYANUKITTA,3GAYANUKITTA,+6,1LITHfhzv,3po,3ya,3wu,3hy,3hq,3uf,3tg,3gc,3oq,+2",
   "1yvuaDIGA GAETTA-PILLA,4GAYANUKITTA,1rcKUNDDALIYA,+c,0THAIczKO KAI,2KHO KHAI,3KHUAT,3KHWAI,3KHON",
   "3RAKHANG,2NGO NGU,2CHO CHAN,3CHING,3CHANG,2SO SO,2CHO CHOE,2YO YING,2DO CHADA,2TO PATAK,2wrTHAN",
   "3NANGMONTHO,3PHUTHAO,2NO NEN,2DO DEK,2TO TAO,2wrTHUNG,3THAHAN,3THONG,2NO NU,2BO BAIMAI,2PO PLA",
   "2PHO PHUNG,2FO FA,2PHO PHAN,2FO FAN,2PHO SAMPHAO,2MO MA,2YO YAK,2RO RUA,2RU,2LO LING,2LU,2WO WAEN",
   "2SO SALA,3RUSI,3SUA,2HO HIP,2LO CHULA,2O ANG,2HO NOKHUK,2PAIYANNOI,2SARA A,2MAI HAN-AKAT,2SARA AA",
   "3AM,3I,3II,3UE,3UEE,3U,3UU,2PHINTHU,+4,1CURRENCYvtBAHT,1czSARA E,3AE,3O,3AI MAIMUAN,4MAIMALAI",
   "2LAKKHANGYAO,2MAIYAMOK,2MAITAIKHU,2MAI EK,3wr,3TRI,3CHATTAWA,2THANTHAKHAT,2NIKHAHIT,2YAMAKKAN",
   "2FONGMAN,1fhzv,2po,2ya,2wu,2hy,2hq,2uf,2tg,2gc,2oq,1czANGKHANKHU,2KHOMUT,+25,0LAOmqKO,2KHO SUNG,+1",
   "3TAM,+1,2PALIii,2NGO,2CO,2PALIcy,2SO TAM,+1,2PALIla,2NYO,2PALIph,3xr,3xs,3eu,3ev,3ot,2DO,2TO,2wrSUNG",
   "3TAM,2PALIez,2NO,2BO,2PO,2PHO SUNG,2FO TAM,2PHO TAM,2FO SUNG,2PALIby,2MO,2YO,2LO LING,+1,3LOOT,+1",
   "2WO,2SANSKRITtj,3uy,2SO SUNG,2HO SUNG,2PALImv,2O,2HO TAM,1gk,1yvuaA,3MAI KAN,3AA,3AM,3I,3II,3Y,3YY",
   "3U,3UU,1uaPALIyq,1yvuaMAI KON,1SEMIVOWELuaLO,3NYO,+2,1yvuaE,3EI,3O,3AY,3AI,+1,1KO LA,+1,1xaMAI EK",
   "3wr,3TI,3CATAWA,1cmnk,1NIGGAHITA,+2,1fhzv,2po,2ya,2wu,2hy,2hq,2uf,2tg,2gc,2oq,+2,1HO NO,2MO",
   "1mqKHMU GO,3NYO,+20,0TIBETANvsOM,1nkGTER YIG MGO TRUNCATED A,5-UM RNAM BCAD MA,6GTERxqMA",
   "2kiYIG MGO MDUN MA,2CLOSING YIG MGO SGAB MA,2cqYIG MGO PHURtkMA,2YIG MGOxqtkMA,2SBRULtk",
   "2BSKUR YIG MGO,2BKA- SHOG YIG MGO,2INTERSYLLABICxq,2DELIMITERxqBSTAR,2tk,2NYIStk,2xqtk,2NYISxqtk",
   "2RIN CHEN SPUNGStk,2RGYA GRAMtk,2cq-DZUDsoMEmxCAN,2GTERxq,1LOGOTYPEuaCHADso,3LHAGso",
   "1ASTROLOGICALuaSGRA GCAN -CHARso,3-KHYUD PA,3SDONG TSHUGS,1uaRDEL DKAR GCIG,4GNYIS,4GSUM,3NAG GCIG",
   "4GNYIS,3DKAR RDEL NAG,1fhzv,2po,2ya,2wu,2hy,2hq,2uf,2tg,2gc,2oq,2iupo,3ya,3wu,3hy,3hq,3uf,3tg,3gc",
   "3oq,3zv,1nkBSDUSso,2NGAS BZUNG NYI ZLA,2cq-DZUDsoBZHI MIG CAN,2NGAS BZUNG SGORso,2dbMGO,2xo-PHRU",
   "2GUGsoGYON,4GYAS,2ANG KHANG GYON,4GYAS,1uaYAR TSHES,2MAR TSHES,1mqKA,2lm,2GA,2ii,2on,2CA,2cy,2JA,+1",
   "2ph,2xr,2xs,2eu,2ev,2ot,2TA,2wh,2DA,2ez,2NA,2PA,2ql,2BA,2by,2MA,2xo,2xp,2DZA,2DZHA,2WA,2zx,2ZA,2-A",
   "2YA,2RA,2LA,2tj,2uy,2SA,2HA,2A,2KSSA,2FIXED-FORM RA,2KKA,2sn,+4,1yvuaAA,3I,3II,3U,3UU,3ysR,4RR,4L",
   "4LL,3E,3EE,3O,3OO,1uaRJES SUonRO,2RNAM BCAD,1yvuartI,4II,1uaNYI ZLA NAA DA,2SNA LDAN,1nkHALANTA",
   "2PALUTA,1uaLCIso,2zkso,2LCExoCAN,2MCHU CAN,2GRU CAN RGYINGS,3MED RGYINGS,2kpMCHU CAN,1vhuaLCExoCAN",
   "3MCHU CAN,3kpMCHU CAN,2mqKA,3lm,3GA,3ii,3on,3CA,3cy,3JA,+1,3ph,3xr,3xs,3eu,3ev,3ot,3TA,3wh,3DA,3ez",
   "3NA,3PA,3ql,3BA,3by,3MA,3xo,3xp,3DZA,3DZHA,3WA,3zx,3ZA,3-A,3YA,3RA,3LA,3tj,3uy,3SA,3HA,3A,3KSSA",
   "3FIXED-FORM WA,4YA,4RA,+1,1KU RUlm,4BZHI MIG CAN,1CANTILLATIONuajkBEAT,3msBEAT,3CANG TE-U",
   "3SBUB -CHAL,1vtDRIL BU,2RDO RJE,2PADMA GDAN,2RDO RJE RGYA GRAM,2PHUR PA,2NOR BU,4NYIS -KHYIL",
   "4GSUM -KHYIL,4BZHI -KHYIL,+1,1uaRDEL NAG RDEL DKAR,4GSUM,1nkBSKA- SHOG GI MGO RGYAN",
   "2MNYAM YIG GI MGO RGYAN,2NYISxq,2kiBRDA RNYING YIG MGO MDUN MA,2CLOSING BRDA RNYING YIG MGO SGAB MA",
   "0saSVASTIua,0mhSVASTIua,0saSVASTIuazefq,0mhSVASTIuazefq,0TIBETANnkLEADING MCHANso,2TRAILING MCHANso",
   "+25,0MYANMARmqKA,2lm,2GA,2ii,2on,2CA,2cy,2JA,2la,2ph,2NNYA,2xr,2xs,2eu,2ev,2ot,2TA,2wh,2DA,2ez,2NA",
   "2PA,2ql,2BA,2by,2MA,2YA,2RA,2LA,2WA,2SA,2HA,2mv,2A,2toA,2I,2II,2U,2UU,2E,2MON E,2O,2AU,1yvuaTALL AA",
   "3AA,3I,3II,3U,3UU,3E,3AI,3MON II,4O,3Eac,1uaat,2fobs,2yr,2yq,2ASAT,1dvuanoYA,4RA,4WA,4HA,1mqGREAT SA",
   "1fhzv,2po,2ya,2wu,2hy,2hq,2uf,2tg,2gc,2oq,1uamuta,2ta,1vtLOCATIVE,2COMPLETED,2AFOREMENTIONED",
   "2GENITIVE,1mqtj,2uy,2ysR,3RR,3L,3LL,1yvuaysR,4RR,4L,4LL,1mqMONon,3la,3BBA,3BBE,1dvuaMONnoNA,5MA,5LA",
   "1mqSGAWlgtj,1yvuaSGAWlgEU,1xankSGAWlgHATHI,5KE PHO,1mqWESTERN PWOlgwh,5PWA,1yvuaWESTERN PWOlgEU,6UE",
   "1uaWESTERN PWOlgTONE-1,5xb,5xc,5xd,5xe,1mqEASTERN PWOlgot,5YWA,5GHWA,1yvuaGEBAlgI,3KAYAH OE,4U,4EE",
   "1mqtoKA,3lm,3GA,3CA,3ZA,3ph,3DA,3NA,3ql,3FA,3BA,3wh,3HA,1dvuatonoWA,1yvuatoAA,4E,5ac,4hjY,1uatoxb",
   "3xc,3xe,3TONE-6,3COUNCILxb,4xc,4EMPHATICxa,1mqRUMAI PALAUNG FA,1uaRUMAI PALAUNGxe,1tofhzv,3po,3ya",
   "3wu,3hy,3hq,3uf,3tg,3gc,3oq,1uaKHAMTI TONE-1,3xc,1yvuaAITON A,4AI,1vttopo,3gv,0GEORGIANcpmqAN,3BAN",
   "3GAN,3DON,3EN,3VIN,3ZEN,3TAN,3IN,3KAN,3LAS,3nj,3NAR,3ON,3PAR,3ZHAR,3RAE,3SAN,3TAR,3UN,3PHAR,3KHAR",
   "3GHAN,3QAR,3tu,3CHIN,3CAN,3JIL,3CIL,3CHAR,3XAN,3JHAN,3HAE,3HE,3HIE,3WE,3HAR,3HOE,+1,3YN,+5,3AEN,+2",
   "1mqAN,2BAN,2GAN,2DON,2EN,2VIN,2ZEN,2TAN,2IN,2KAN,2LAS,2nj,2NAR,2ON,2PAR,2ZHAR,2RAE,2SAN,2TAR,2UN",
   "2PHAR,2KHAR,2GHAN,2QAR,2tu,2CHIN,2CAN,2JIL,2CIL,2CHAR,2XAN,2JHAN,2HAE,2HE,2HIE,2WE,2HAR,2HOE,2FI,2YN",
   "2ELIFI,2xuGAN,2af,1qdtf,0nwmqGEORGIAN NAR,0GEORGIANmqAEN,2HARDua,2LABIALua,0jfCHOSEONGlr,2uz,2NIEUN",
   "2wx,2va,2RIEUL,2MIEUM,2PIEUP,2SSANGPIEUP,2SIOS,2SSANGSIOS,2kb,2dg,2SSANGCIEUC,2df,2lo,2wm,2qn,2HIEUH",
   "2NIEUN-KIYEOK,2SSANGNIEUN,2NIEUN-TIKEUT,2NIEUN-PIEUP,2TIKEUT-KIYEOK,2RIEUL-NIEUN,2SSANGRIEUL,2rv",
   "2KAPYEOUNRIEUL,2MIEUM-PIEUP,2KAPYEOUNMIEUM,2PIEUP-KIYEOK,2PIEUP-NIEUN,2PIEUP-TIKEUT,2PIEUP-SIOS",
   "2PIEUP-SIOS-KIYEOK,2PIEUP-SIOS-TIKEUT,2PIEUP-SIOS-PIEUP,2PIEUP-SSANGSIOS,2PIEUP-SIOS-CIEUC",
   "2PIEUP-CIEUC,2PIEUP-CHIEUCH,2PIEUP-THIEUTH,2PIEUP-PHIEUPH,2KAPYEOUNPIEUP,2KAPYEOUNSSANGPIEUP",
   "2SIOS-KIYEOK,2SIOS-NIEUN,2SIOS-TIKEUT,2SIOS-RIEUL,2SIOS-MIEUM,2SIOS-PIEUP,2SIOS-PIEUP-KIYEOK",
   "2SIOS-SSANGSIOS,2SIOS-IEUNG,2SIOS-CIEUC,2SIOS-CHIEUCH,2SIOS-KHIEUKH,2SIOS-THIEUTH,2SIOS-PHIEUPH",
   "2SIOS-HIEUH,2CHITUEUMSIOS,2CHITUEUMSSANGSIOS,2CEONGCHIEUMSIOS,2CEONGCHIEUMSSANGSIOS,2PANSIOS",
   "2IEUNG-KIYEOK,2IEUNG-TIKEUT,2IEUNG-MIEUM,2IEUNG-PIEUP,2IEUNG-SIOS,2IEUNG-PANSIOS,2SSANGIEUNG",
   "2IEUNG-CIEUC,2IEUNG-CHIEUCH,2IEUNG-THIEUTH,2IEUNG-PHIEUPH,2YESIEUNG,2CIEUC-IEUNG,2CHITUEUMCIEUC",
   "2CHITUEUMSSANGCIEUC,2CEONGCHIEUMCIEUC,2CEONGCHIEUMSSANGCIEUC,2CHIEUCH-KHIEUKH,2CHIEUCH-HIEUH",
   "2CHITUEUMCHIEUCH,2CEONGCHIEUMCHIEUCH,2PHIEUPH-PIEUP,2KAPYEOUNPHIEUPH,2SSANGHIEUH,2YEORINHIEUH",
   "2KIYEOK-TIKEUT,2NIEUN-SIOS,2oo,2op,2TIKEUT-RIEUL,2hi,1JUNGSEONGhi,2A,2AE,2YA,2YAE,2EO,2E,2YEO,2YE,2O",
   "2WA,2WAE,2OE,2YO,2U,2WEO,2WE,2WI,2YU,2EU,2YI,2I,2A-O,2A-U,2YA-O,2YA-YO,2EO-O,2EO-U,2EO-EU,2YEO-O",
   "2YEO-U,2O-EO,2O-E,2O-YE,2O-O,2O-U,2YO-YA,2YO-YAE,2YO-YEO,2YO-O,2YO-I,2U-A,2U-AE,2U-EO-EU,2U-YE,2U-U",
   "2YU-A,2YU-EO,2YU-E,2YU-YEO,2YU-YE,2YU-U,2YU-I,2EU-U,2EU-EU,2YI-U,2I-A,2I-YA,2I-O,2I-U,2I-EU,2I-ARAEA",
   "2ARAEA,2ARAEA-EO,2ARAEA-U,2ARAEA-I,2SSANGARAEA,2A-EU,2YA-U,2YEO-YA,2O-YA,2O-YAE,1JONGSEONGlr,2uz",
   "2KIYEOK-SIOS,2NIEUN,2oo,2op,2wx,2RIEUL,2rw,2rx,2ry,2RIEUL-SIOS,2RIEUL-THIEUTH,2RIEUL-PHIEUPH,2rv",
   "2MIEUM,2PIEUP,2PIEUP-SIOS,2SIOS,2SSANGSIOS,2kb,2dg,2df,2lo,2wm,2qn,2HIEUH,2KIYEOK-RIEUL",
   "2KIYEOK-SIOS-KIYEOK,2NIEUN-KIYEOK,2NIEUN-TIKEUT,2NIEUN-SIOS,2NIEUN-PANSIOS,2NIEUN-THIEUTH",
   "2TIKEUT-KIYEOK,2TIKEUT-RIEUL,2RIEUL-KIYEOK-SIOS,2RIEUL-NIEUN,2RIEUL-TIKEUT,2RIEUL-TIKEUT-HIEUH",
   "2SSANGRIEUL,2RIEUL-MIEUM-KIYEOK,2RIEUL-MIEUM-SIOS,2RIEUL-PIEUP-SIOS,2RIEUL-PIEUP-HIEUH",
   "2RIEUL-KAPYEOUNPIEUP,2RIEUL-SSANGSIOS,2RIEUL-PANSIOS,2RIEUL-KHIEUKH,2RIEUL-YEORINHIEUH,2MIEUM-KIYEOK",
   "2MIEUM-RIEUL,2MIEUM-PIEUP,2MIEUM-SIOS,2MIEUM-SSANGSIOS,2MIEUM-PANSIOS,2MIEUM-CHIEUCH,2MIEUM-HIEUH",
   "2KAPYEOUNMIEUM,2PIEUP-RIEUL,2PIEUP-PHIEUPH,2PIEUP-HIEUH,2KAPYEOUNPIEUP,2SIOS-KIYEOK,2SIOS-TIKEUT",
   "2SIOS-RIEUL,2SIOS-PIEUP,2PANSIOS,2IEUNG-KIYEOK,2IEUNG-SSANGKIYEOK,2SSANGIEUNG,2IEUNG-KHIEUKH",
   "2YESIEUNG,2YESIEUNG-SIOS,2YESIEUNG-PANSIOS,2PHIEUPH-PIEUP,2KAPYEOUNPHIEUPH,2HIEUH-NIEUN,2HIEUH-RIEUL",
   "2HIEUH-MIEUM,2HIEUH-PIEUP,2YEORINHIEUH,2KIYEOK-NIEUN,2KIYEOK-PIEUP,2KIYEOK-CHIEUCH,2KIYEOK-KHIEUKH",
   "2KIYEOK-HIEUH,2SSANGNIEUN,0ETHIOPICvsHA,2HU,2HI,2HAA,2HEE,2HE,2HO,2HOA,2LA,2LU,2LI,2LAA,2LEE,2LE,2LO",
   "2LWA,2HHA,2HHU,2HHI,2HHAA,2HHEE,2HHE,2HHO,2HHWA,2MA,2MU,2MI,2MAA,2MEE,2ME,2MO,2MWA,2SZA,2SZU,2SZI",
   "2SZAA,2SZEE,2SZE,2SZO,2SZWA,2RA,2RU,2RI,2RAA,2REE,2RE,2RO,2RWA,2SA,2SU,2SI,2SAA,2SEE,2SE,2SO,2SWA",
   "2tj,2SHU,2SHI,2SHAA,2SHEE,2tq,2SHO,2SHWA,2QA,2QU,2QI,2QAA,2QEE,2QE,2QO,2QOA,2QWA,+1,2QWI,2QWAA,2QWEE",
   "2QWE,+2,2QHA,2QHU,2QHI,2QHAA,2QHEE,2QHE,2QHO,+1,2QHWA,+1,2QHWI,2QHWAA,2QHWEE,2QHWE,+2,2BA,2BU,2BI",
   "2BAA,2BEE,2BE,2BO,2BWA,2VA,2VU,2VI,2VAA,2VEE,2VE,2VO,2VWA,2TA,2TU,2TI,2TAA,2TEE,2TE,2TO,2TWA,2CA,2CU",
   "2CI,2CAA,2CEE,2CE,2CO,2CWA,2XA,2XU,2XI,2XAA,2XEE,2XE,2XO,2XOA,2XWA,+1,2XWI,2XWAA,2XWEE,2XWE,+2,2NA",
   "2NU,2NI,2NAA,2NEE,2NE,2NO,2NWA,2ph,2NYU,2NYI,2NYAA,2NYEE,2NYE,2NYO,2NYWA,2inA,3U,3I,3AA,3EE,3E,3O",
   "3WA,2KA,2KU,2KI,2KAA,2KEE,2KE,2KO,2KOA,2KWA,+1,2KWI,2KWAA,2KWEE,2KWE,+2,2KXA,2KXU,2KXI,2KXAA,2KXEE",
   "2KXE,2KXO,+1,2KXWA,+1,2KXWI,2KXWAA,2KXWEE,2KXWE,+2,2WA,2WU,2WI,2WAA,2WEE,2WE,2WO,2WOA,2PHARYNGEAL A",
   "3U,3I,3AA,3EE,3E,3O,+1,2ZA,2ZU,2ZI,2ZAA,2ZEE,2ZE,2ZO,2ZWA,2zx,2ZHU,2ZHI,2ZHAA,2ZHEE,2zy,2ZHO,2ZHWA",
   "2YA,2YU,2YI,2YAA,2YEE,2YE,2YO,2YOA,2DA,2DU,2DI,2DAA,2DEE,2DE,2DO,2DWA,2eu,2DDU,2DDI,2DDAA,2DDEE,2DDE",
   "2DDO,2DDWA,2JA,2JU,2JI,2JAA,2JEE,2JE,2JO,2JWA,2GA,2GU,2GI,2GAA,2GEE,2GE,2GO,2GOA,2GWA,+1,2GWI,2GWAA",
   "2GWEE,2GWE,+2,2GGA,2GGU,2GGI,2GGAA,2GGEE,2GGE,2GGO,2GGWAA,2wh,2THU,2THI,2THAA,2THEE,2wi,2wr,2THWA",
   "2cy,2CHU,2de,2CHAA,2CHEE,2db,2CHO,2CHWA,2ql,2PHU,2qm,2PHAA,2PHEE,2PHE,2PHO,2PHWA,2xo,2TSU,2TSI,2TSAA",
   "2TSEE,2TSE,2TSO,2TSWA,2TZA,2TZU,2TZI,2TZAA,2TZEE,2TZE,2TZO,2TZOA,2FA,2FU,2FI,2FAA,2FEE,2FE,2FO,2FWA",
   "2PA,2PU,2PI,2PAA,2PEE,2PE,2PO,2PWA,2RYA,2MYA,2FYA,+2,1dqigapyvmnnk,2yvmnnk,2ignk,1tank,1WORDSPACE",
   "1icvd,1dr,1td,1dp,1PREFACEdp,1rknk,1qdtf,1fhpo,2ya,2wu,2hy,2hq,2uf,2tg,2gc,2oq,1pewf,2xy,2wq,2hw,2hg",
   "2ui,2ti,2gg,2os,2jw,2wfws,+3,1vsSEBATBEIT MWA,2MWI,2MWEE,2MWE,2SEBATBEIT BWA,2BWI,2BWEE,2BWE",
   "2SEBATBEIT FWA,2FWI,2FWEE,2FWE,2SEBATBEIT PWA,2PWI,2PWEE,2PWE,1TONALnkYIZET,3DERET,3RIKRIK,3tvRIKRIK",
   "3DIFAT,3KENAT,3CHIRET,3HIDET,3DERET-HIDET,3KURT,+6,0CHEROKEEmqA,2E,2I,2O,2U,2V,2GA,2KA,2GE,2GI,2GO",
   "2GU,2GV,2HA,2HE,2HI,2HO,2HU,2HV,2LA,2LE,2LI,2LO,2LU,2LV,2MA,2ME,2MI,2MO,2MU,2NA,2HNA,2NAH,2NE,2NI",
   "2NO,2NU,2NV,2QUA,2QUE,2QUI,2QUO,2QUU,2QUV,2SA,2S,2SE,2SI,2SO,2SU,2SV,2DA,2TA,2DE,2TE,2DI,2TI,2DO,2DU",
   "2DV,2DLA,2TLA,2TLE,2TLI,2TLO,2TLU,2TLV,2xo,2TSE,2TSI,2TSO,2TSU,2TSV,2WA,2WE,2WI,2WO,2WU,2WV,2YA,2YE",
   "2YI,2YO,2YU,2YV,2MV,+2,1ulmqYE,3YI,3YO,3YU,3YV,3MV,+2,0CANADIAN SYLLABICSjx,2E,2AAI,2I,2II,2O,2OO",
   "2zjOO,2csEE,3I,2A,2AA,2WE,2zbWE,2WI,2zbWI,2WII,2zbWII,2WO,2zbWO,2WOO,2zbWOO,2oiWOO,2WA,2zbWA,2WAA",
   "2zbWAA,2oiWAA,2AI,2zjW,2invd,2hjae,3io,3cfiusf,3xhiusf,3rziusf,3sf,3fsae,4tvynSTROKES,3nsfo,3tvjtvf",
   "3qq,3fvvu,2EN,2IN,2ON,2AN,2PE,2PAAI,2PI,2PII,2PO,2POO,2zjPOO,2csHEE,3HI,2PA,2PAA,2PWE,2zbPWE,2PWI",
   "2zbPWI,2PWII,2zbPWII,2PWO,2zbPWO,2PWOO,2zbPWOO,2PWA,2zbPWA,2PWAA,2zbPWAA,2zjPWAA,2P,2zbP,2csH,2TE",
   "2TAAI,2TI,2TII,2TO,2TOO,2zjTOO,2csDEE,3DI,2TA,2TAA,2TWE,2zbTWE,2TWI,2zbTWI,2TWII,2zbTWII,2ya,2zbya",
   "2TWOO,2zbTWOO,2TWA,2zbTWA,2TWAA,2zbTWAA,2oiTWAA,2T,2TTE,2TTI,2TTO,2xr,2KE,2KAAI,2KI,2KII,2KO,2KOO",
   "2zjKOO,2KA,2KAA,2KWE,2zbKWE,2KWI,2zbKWI,2KWII,2zbKWII,2KWO,2zbKWO,2KWOO,2zbKWOO,2KWA,2zbKWA,2KWAA",
   "2zbKWAA,2oiKWAA,2K,2KW,2SOUTH-SLAVEY KEH,3KIH,3KOH,3KAH,2CE,2CAAI,2CI,2CII,2CO,2COO,2zjCOO,2CA,2CAA",
   "2CWE,2zbCWE,2CWI,2zbCWI,2CWII,2zbCWII,2CWO,2zbCWO,2CWOO,2zbCWOO,2CWA,2zbCWA,2CWAA,2zbCWAA,2oiCWAA,2C",
   "2suTH,2ME,2MAAI,2MI,2MII,2MO,2MOO,2zjMOO,2MA,2MAA,2MWE,2zbMWE,2MWI,2zbMWI,2MWII,2zbMWII,2MWO,2zbMWO",
   "2MWOO,2zbMWOO,2MWA,2zbMWA,2MWAA,2zbMWAA,2oiMWAA,2M,2zbM,2MH,2ATHAPASCAN M,2suM,2NE,2NAAI,2NI,2NII",
   "2NO,2NOO,2zjNOO,2NA,2NAA,2NWE,2zbNWE,2NWA,2zbNWA,2NWAA,2zbNWAA,2oiNWAA,2N,2csNG,2NH,2LE,2LAAI,2LI",
   "2LII,2LO,2LOO,2zjLOO,2LA,2LAA,2LWE,2zbLWE,2LWI,2zbLWI,2LWII,2zbLWII,2LWO,2zbLWO,2LWOO,2zbLWOO,2LWA",
   "2zbLWA,2LWAA,2zbLWAA,2L,2zbL,2noL,2SE,2SAAI,2SI,2SII,2SO,2SOO,2zjSOO,2SA,2SAA,2SWE,2zbSWE,2SWI",
   "2zbSWI,2SWII,2zbSWII,2SWO,2zbSWO,2SWOO,2zbSWOO,2SWA,2zbSWA,2SWAA,2zbSWAA,2oiSWAA,2S,2ATHAPASCAN S",
   "2SW,2BLACKFOOT S,2MOOSE-CREE SK,2oiSKW,3S-W,3SPWA,3STWA,3SKWA,3SCWA,2tq,2SHI,2SHII,2SHO,2SHOO,2tj",
   "2SHAA,2SHWE,2zbSHWE,2SHWI,2zbSHWI,2SHWII,2zbSHWII,2SHWO,2zbSHWO,2SHWOO,2zbSHWOO,2SHWA,2zbSHWA,2SHWAA",
   "2zbSHWAA,2SH,2YE,2YAAI,2YI,2YII,2YO,2YOO,2zjYOO,2YA,2YAA,2YWE,2zbYWE,2YWI,2zbYWI,2YWII,2zbYWII,2YWO",
   "2zbYWO,2YWOO,2zbYWOO,2YWA,2zbYWA,2YWAA,2zbYWAA,2oiYWAA,2Y,2BIBLE-CREE Y,2zbY,2suYI,2RE,2R-CREE RE",
   "2zbLE,2RAAI,2RI,2RII,2RO,2ROO,2zbLO,2RA,2RAA,2zbLA,2RWAA,2zbRWAA,2R,2zbR,2noR,2FE,2FAAI,2FI,2FII,2FO",
   "2FOO,2FA,2FAA,2FWAA,2zbFWAA,2F,2wi,2N-CREEwi,2THI,2N-CREE THI,2THII,2N-CREE THII,2wr,2THOO,2wh,2THAA",
   "2THWAA,2zbTHWAA,2TH,2TTHE,2TTHI,2TTHO,2xs,2TTH,2TYE,2TYI,2TYO,2TYA,2NUNAVIK HE,3HI,3HII,3HO,3HOO,3HA",
   "3HAA,3H,2NUNAVUT H,2HK,2QAAI,2QI,2QII,2QO,2QOO,2QA,2QAA,2Q,2TLHE,2TLHI,2TLHO,2TLHA,2zbRE,3RI,3RO,3RA",
   "2NGAAI,2NGI,2NGII,2NGO,2NGOO,2on,2NGAA,2NG,2NNG,2sutq,3SHI,3SHO,3tj,2WOODS-CREEwi,3THI,3wr,3wh,3TH",
   "2LHI,2LHII,2LHO,2LHOO,2LHA,2LHAA,2LH,2TH-CREEwi,3THI,3THII,3wr,3THOO,3wh,3THAA,3TH,2AIVILIK B",
   "2BLACKFOOT E,3I,3O,3A,3WE,3WI,3WO,3WA,3NE,3NI,3NO,3NA,3KE,3KI,3KO,3KA,2suHE,3HI,3HO,3HA,2csGHU,3GHO",
   "3ik,3GHEE,3GHI,3ii,3RU,3RO,3RE,3REE,3RI,3RA,3WU,3WO,3WE,3WEE,3WI,3WA,3HWU,3HWO,3HWE,3HWEE,3HWI,3HWA",
   "3THU,3wr,3wi,3THEE,3THI,3wh,3TTU,3TTO,3TTE,3TTEE,3TTI,3xr,3PU,3PO,3PE,3PEE,3PI,3PA,3P,3GU,3GO,3GE",
   "3GEE,3GI,3GA,3KHU,3KHO,3KHE,3KHEE,3KHI,3lm,3KKU,3KKO,3KKE,3KKEE,3KKI,3KKA,3KK,3NU,3NO,3NE,3NEE,3NI",
   "3NA,3MU,3MO,3ME,3MEE,3MI,3MA,3YU,3YO,3YE,3YEE,3YI,3YA,3JU,2suJU,2csJO,3JE,3JEE,3JI,2suJI,2csJA,3JJU",
   "3JJO,3JJE,3JJEE,3JJI,3JJA,3LU,3LO,3LE,3LEE,3LI,3LA,3DLU,3DLO,3DLE,3DLEE,3DLI,3DLA,3LHU,3LHO,3LHE",
   "3LHEE,3LHI,3LHA,3TLHU,3TLHO,3TLHE,3TLHEE,3TLHI,3TLHA,3TLU,3TLO,3TLE,3TLEE,3TLI,3TLA,3ZU,3ZO,3ZE,3ZEE",
   "3ZI,3ZA,3Z,3kiZ,3DZU,3DZO,3DZE,3DZEE,3DZI,3DZA,3SU,3SO,3SE,3SEE,3SI,3SA,3SHU,3SHO,3tq,3SHEE,3SHI,3tj",
   "3SH,3TSU,3TSO,3TSE,3TSEE,3TSI,3xo,3CHU,3CHO,3db,3CHEE,3de,3cy,3TTSU,3TTSO,3TTSE,3TTSEE,3TTSI,3TTSA",
   "2deua,2icvd,2QAI,2NGAI,2NNGI,2NNGII,2NNGO,2NNGOO,2NNGA,2NNGAA,2WOODS-CREE THWEE,3THWI,3THWII,3THWO",
   "3THWOO,3THWA,3THWAA,3hjTH,2BLACKFOOT W,0OGHAMurnk,1mqBEITH,2LUIS,2FEARN,2SAIL,2NION,2UATH,2DAIR",
   "2TINNE,2COLL,2CEIRT,2MUIN,2GORT,2NGEADAL,2STRAIF,2RUIS,2AILM,2ONN,2UR,2EADHADH,2IODHADH,2EABHADH,2OR",
   "2UILLEANN,2IFIN,2EAMHANCHOLL,2PEITH,1FEATHERnk,1rtFEATHERnk,+3,0RUNICmqFEHU FEOH FE F,2V,2URUZ UR U",
   "2YR,2Y,2W,2THURISAZ THURS THORN,2ETH,2ANSUZ A,2OS O,2AC A,2AESC,2LONG-BRANCH-OSS O,2SHORT-TWIG-OSS O",
   "2O,2OE,2ON,2RAIDO RAD REID R,2KAUNA,2CEN,2KAUN K,2G,2ENG,2GEBO GYFU G,2if,2WUNJO WYNN W,2HAGLAZ H",
   "2HAEGL H,2LONG-BRANCH-HAGALL H,2SHORT-TWIG-HAGALL H,2NAUDIZ NYD NAUD N,2SHORT-TWIG-NAUD N,2DOTTED-N",
   "2ISAZ IS ISS I,2E,2JERAN J,2GER,2LONG-BRANCH-AR AE,2SHORT-TWIG-AR A,2IWAZ EOH,2PERTHO PEORTH P",
   "2ALGIZ EOLHX,2SOWILO S,2SIGEL LONG-BRANCH-SOL S,2SHORT-TWIG-SOL S,2C,2Z,2TIWAZ TIR TYR T",
   "2SHORT-TWIG-TYR T,2D,2BERKANAN BEORC BJARKAN B,2SHORT-TWIG-BJARKAN B,2DOTTED-P,2OPEN-P,2EHWAZ EH E",
   "2MANNAZnjM,2LONG-BRANCH-MADR M,2SHORT-TWIG-MADR M,2LAUKAZ LAGU LOGR L,2DOTTED-L,2INGWAZ,2ING",
   "2DAGAZ DAEG D,2OTHALAN ETHEL O,2EAR,2IOR,2CWEORTH,2CALC,2CEALC,2STAN,2LONG-BRANCH-YR,2SHORT-TWIG-YR",
   "2ICELANDIC-YR,2Q,2X,1udrc,1oerc,1ecrc,1ARLAUGvt,1TVIMADURvt,1BELGTHORvt,1mqK,2SH,2OO",
   "2FRANKS CASKET OS,4IS,4EH,4AC,4AESC,+7,0TAGALOGmqA,2I,2U,2KA,2GA,2on,2TA,2DA,2NA,2PA,2BA,2MA,2YA,2RA",
   "2LA,2WA,2SA,2HA,1yvuaI,3U,1uayq,2PAMUDPOD,+9,1mqayRA,0HANUNOOmqA,2I,2U,2KA,2GA,2on,2TA,2DA,2NA,2PA",
   "2BA,2MA,2YA,2RA,2LA,2WA,2SA,2HA,1yvuaI,3U,1uaPAMUDPOD,0PHILIPPINEudrc,1fsrc,+9,0BUHIDmqA,2I,2U,2KA",
   "2GA,2on,2TA,2DA,2NA,2PA,2BA,2MA,2YA,2RA,2LA,2WA,2SA,2HA,1yvuaI,3U,+c,0TAGBANWAmqA,2I,2U,2KA,2GA,2on",
   "2TA,2DA,2NA,2PA,2BA,2MA,2YA,+1,2LA,2WA,2SA,+1,1yvuaI,3U,+c,0KHMERmqKA,2lm,2KO,2KHO,2NGO,2CA,2cy,2CO",
   "2CHO,2NYO,2DA,2xs,2DO,2TTHO,2NNO,2TA,2wh,2TO,2wr,2NO,2BA,2ql,2PO,2PHO,2MO,2YO,2RO,2LO,2VO,2tj,2SSO",
   "2SA,2HA,2LA,2QA,1keyvQAQ,3QAA,3QI,3QII,3QU,3QUK,3QUU,3QUUV,3RY,3RYY,3LY,3LYY,3QE,3QAI,3QOO TYPEpo",
   "5ya,3QAU,1yvINHERENT AQ,3AA,2uaAA,3I,3II,3Y,3YY,3U,3UU,3UA,3OE,3YA,3IE,3E,3AE,3AI,3OO,3AU,1uaNIKAHIT",
   "2REAHMUK,2YUUKALEAPINTU,2MUUSIKATOAN,2TRIISAP,2BANTOC,2ROBAT,2TOANDAKHIAT,2KAKABAT,2AHSDA",
   "2SAMYOK SANNYA,2VIRIAM,2COENG,2BATHAMASAT,2KHAN,2BARIYOOSAN,2CAMNUC PII KUUH,2LEK TOO,2BEYYAL",
   "2PHNAEK MUAN,2KOOMUUT,1CURRENCYvtRIEL,1uaAVAKRAHASANYA,2ATTHACAN,+2,1fhzv,2po,2ya,2wu,2hy,2hq,2uf",
   "2tg,2gc,2oq,+6,1vtLEK ATTAK SON,4MUOY,4PII,4BEI,4BUON,4PRAM,4PRAM-MUOY,4PRAM-PII,4PRAM-BEI",
   "4PRAM-BUON,+6,0MONGOLIANbz,1gk,1dr,1icvd,1dp,1hyfq,1TODOunjx,1SIBEvsBOUNDARYnl,1MANCHUdr,2icvd",
   "1NIRUGU,1FREEymSELECTORpo,4ya,4wu,1yvtf,1FREEymSELECTORhy,1fhzv,2po,2ya,2wu,2hy,2hq,2uf,2tg,2gc,2oq",
   "+6,1mqA,2E,2I,2O,2U,2OE,2UE,2EE,2NA,2ANG,2BA,2PA,2QA,2GA,2MA,2LA,2SA,2tj,2TA,2DA,2cy,2JA,2YA,2RA,2WA",
   "2FA,2KA,2lm,2xo,2ZA,2HAA,2ZRA,2LHA,2ZHI,2de,2TODOmxyvua,3E,3I,3O,3U,3OE,3UE,3ANG,3BA,3PA,3QA,3GA,3MA",
   "3TA,3DA,3cy,3JA,3xo,3YA,3WA,3KA,3GAA,3HAA,3JIA,3NIA,3DZA,2SIBE E,3I,3IY,3UE,3U,3ANG,3KA,3GA,3HA,3PA",
   "3tj,3TA,3DA,3JA,3FA,3GAA,3HAA,3xo,3ZA,3RAA,3cy,3zx,2MANCHU I,3KA,3RA,3FA,3zx,2cyzeyafq,+7",
   "2ALI GALIatpo,4yrpo,4DAMARU,4UBADAMA,4kpUBADAMA,4BALUDA,4wuBALUDA,4A,4I,4KA,4on,4CA,4xr,4xs,4eu,4ot",
   "4TA,4DA,4PA,4ql,4uy,4zx,4ZA,4AH,2TODO ALI GALI TA,5zx,2MANCHU ALI GALIii,5on,5CA,5la,5xr,5ev,5TA,5ez",
   "5uy,5CYA,5zx,5ZA,2ALI GALIiuU,5YA,2MANCHU ALI GALIby,2ALI GALI DAGALGA,2MANCHU ALI GALI LHA,+5",
   "0CANADIAN SYLLABICS OY,2AY,2AAY,2WAY,2POY,2PAY,2PWOY,2TAY,2KAY,2KWAY,2MAY,2NOY,2NAY,2LAY,2SOY,2SAY",
   "2SHOY,2SHAY,2SHWOY,2YOY,2YAY,2RAY,2NWI,2OJIBWAY NWI,2NWII,2OJIBWAY NWII,2NWO,2OJIBWAY NWO,2NWOO",
   "2OJIBWAY NWOO,2RWEE,2RWI,2RWII,2RWO,2RWOO,2RWA,2OJIBWAY P,3T,3K,3C,3M,3N,3S,3SH,2EASTERN W",
   "2WESTERN W,2hjulsf,3rmfo,2R-CREE RWE,2zbLOO,3LAA,2THWE,2THWA,2TTHWE,2TTHOO,2TTHAA,2TLHWE,2TLHOO",
   "2suSHWE,3SHOO,3HOO,2csGWU,3DENE GEE,3GAA,3GWA,2suJUU,2csJWA,2BEAVER DENE L,4R,2csDENTAL S,+a",
   "0LIMBU VOWEL-CARRIERmq,1mqKA,2lm,2GA,2ii,2on,2CA,2cy,2JA,2la,2YAN,2TA,2wh,2DA,2ez,2NA,2PA,2ql,2BA",
   "2by,2MA,2YA,2RA,2LA,2WA,2tj,2uy,2SA,2HA,2GYAN,2TRA,+1,1yvuaA,3I,3U,3EE,3AI,3OO,3AU,3E,3O,1vhmqYA,3RA",
   "3WA,+4,1ulmqKA,3on,3at,3TA,3NA,3PA,3MA,3RA,3LA,1uaMUKPHRENG,2KEMPHRENG,2SA-I,+4,2LOO,+3,1gvnk,1rknk",
   "1fhzv,2po,2ya,2wu,2hy,2hq,2uf,2tg,2gc,2oq,0TAI LEmqKA,3XA,3on,3xo,3SA,3YA,3TA,3wh,3LA,3PA,3ql,3MA",
   "3FA,3VA,3HA,3QA,3lm,3xp,3NA,3A,3I,3EE,3EH,3U,3OO,3O,3UE,3E,3AUE,3AI,+2,3xb,3xc,3xd,3xe,3TONE-6,+b",
   "0NEW TAI LUEmqjnQA,4naQA,4jnKA,5XA,5on,4naKA,5XA,5on,4jnxo,5SA,5YA,4naxo,5SA,5YA,4jnTA,5wh,5NA,4naTA",
   "5wh,5NA,4jnPA,5ql,5MA,4naPA,5ql,5MA,4jnFA,5VA,5LA,4naFA,5VA,5LA,4jnHA,5DA,5BA,4naHA,5DA,5BA,4jnKVA",
   "5XVA,4naKVA,5XVA,4jnSUA,4naSUA,+4,3yvuayvSHORTENER,5AA,5II,5U,5UU,5E,5AE,5O,5OA,5UE,5AY,5AAY,5UY,5OY",
   "5OAY,5UEY,5IY,3mqhjV,5NG,5N,5M,5K,5D,5B,3xaMARK-1,4MARK-2,+6,3fhzv,4po,4ya,4wu,4hy,4hq,4uf,4tg,4gc",
   "4oq,3THAMfhpo,+3,3uaLAE,4LAEV,0KHMERvtPATHAMASAT,2MUOYlu,2PIIlu,2BEIlu,2BUONlu,2PRAMlu,2PRAM-MUOYlu",
   "2PRAM-PIIlu,2PRAM-BEIlu,2PRAM-BUONlu,2DAPlu,2DAP-MUOYlu,2DAP-PIIlu,2DAP-BEIlu,2DAP-BUONlu",
   "2DAP-PRAMlu,2TUTEYASAT,2MUOY ROC,2PII ROC,2BEI ROC,2BUON ROC,2PRAM ROC,2PRAM-MUOY ROC,2PRAM-PII ROC",
   "2PRAM-BEI ROC,2PRAM-BUON ROC,2DAP ROC,2DAP-MUOY ROC,2DAP-PII ROC,2DAP-BEI ROC,2DAP-BUON ROC",
   "2DAP-PRAM ROC,0BUGINESEmqKA,2GA,2on,2NGKA,2PA,2BA,2MA,2MPA,2TA,2DA,2NA,2NRA,2CA,2JA,2ph,2NYCA,2YA",
   "2RA,2LA,2VA,2SA,2A,2HA,1yvuaI,3U,3E,3O,3AE,+2,1PALLAWA,1glOFta,0TAI THAMmqjnKA,4lm,4KXA,3naKA,4KXA",
   "4lm,3on,3jnCA,4cy,3naCA,4SA,4cy,3ph,3RATA,3jnRATHA,3DA,3naRATHA,3RANA,3jnTA,4wh,3naTA,4wh,3NA,3BA",
   "3jnPA,4ql,4FA,3naPA,4FA,4ql,3MA,3naYA,3jnYA,3RA,3RUE,3LA,3LUE,3WA,3jntj,4uy,4SA,4HA,3mv,3A,3naHA,3I",
   "3II,3U,3UU,3EE,3OO,3LAE,3GREAT SA,2dvuanoRA,5LA,4LA TANG LAI,2uaMAI KANG LAI,2dvuahjon,4naPA",
   "4jnRATHA ORnaPA,4MA,4BA,4SA,+1,2uaSAKOT,2yvuaA,4MAI SAT,4AA,4TALL AA,4I,4II,4UE,4UUE,4U,4UU,4O,4OAbs",
   "4OY,4E,4AE,4OO,4AI,4THAM AI,4OAac,2uaMAI KANG,3TONE-1,3xb,3KHUENxc,4xd,4xe,3RA HAAM,3MAI SAM",
   "3KHUEN-LUE KARAN,+2,2dqegfo,2HORAfhzv,4po,4ya,4wu,4hy,4hq,4uf,4tg,4gc,4oq,+6,2THAMfhzv,4po,4ya,4wu",
   "4hy,4hq,4uf,4tg,4gc,4oq,+6,2uaWIANG,3WIANGWAAK,3SAWAN,3KEOW,3HOY,3DOKMAI,3rtsiRANA,3MAI YAMOK,3KAAN",
   "3KAANKUU,3SATKAAN,3SATKAANKUU,3HANG,3CAANG,+2,0dqDOUBLEDdkad,1DIAERESIS-RING,1kh,1fxba,1xnfo,1X-Xbs",
   "1WIGGLYmtbs,1ppnkbs,1fsppnkbs,1mscvvfbs,1STRONGcvvfbs,1PARENTHESESac,1fsPARENTHESESac,1PARENTHESESbs",
   "2px,1meulmqWbs,4xuWbs,1mgqfacmg,1rzqfacrz,1mgqfbsmg,1rzqfbsrz,1uwBRACKETSac,1peuaac,1kpfsARCHac",
   "1qquaac,1fsqquaac,4bs,1xnaead,1meulmqkkG,5R,5T,+31,0BALINESEuaULU RICEM,3cn,2CECEK,2SURANG,2BISAH",
   "1mqAKARA,3wc,2IKARA,3wc,2UKARA,3wc,2RA REPA,4wc,2LA LENGA,4wc,2EKARA,2AIKARA,2OKARA,3wc,2KA,3nh,2GA",
   "3GORA,2on,2CA,3LACA,2JA,3JERA,2ph,2TA LATIK,3ognh,2DAogALPAPRANA,4nh,2NA RAMBAT,2TA,3TAWA,2DA,3MADU",
   "2NA,2PA,3KAPAL,2BA,3KEMBANG,2MA,2YA,2RA,2LA,2WA,2SA SAGA,3SAPA,3,2HA,1uaREREKAN,1yvuawc,3ULU,4SARI",
   "3SUKU,4ILUT,3RA REPA,5wc,3LA LENGA,5wc,3TALING,4REPA,4wc,4REPAwc,3PEPET,4wc,1ADEG ADEG,1mqldSASAK",
   "2KHOT SASAK,2TZIR SASAK,2EF SASAK,2VE SASAK,2ZAL SASAK,2ASYURA SASAK,2ayJNYA,+3,1fhzv,2po,2ya,2wu",
   "2hy,2hq,2uf,2tg,2gc,2oq,1PANTI,1PAMADA,1WINDU,1CARIK PAMUNGKAH,2SIKI,2PAREREN,1PAMENENG,1ohvtDONG",
   "3DENG,3DUNG,3DANG,4SURANG,3DING,3DAENG,3DEUNG,3DAING,3DANG GEDE,3dqTEGEH,4ENDEP,4KEMPUL,4KEMPLI",
   "4JEGOGAN,4KEMPULzeJEGOGAN,4KEMPLIzeJEGOGAN,4BENDE,4GONG,3RIGHT-HANDppDUG,5DAG,4dnTUK,5TAK",
   "3LEFT-HANDppPANG,5PUNG,4dnPLAK,5PLUK,4ppPING,1PANTI LANTANG,1PAMADA LANTANG,+1,0SUNDANESEuaPANYECEK",
   "2PANGLAYAR,2PANGWISAD,1mqA,2I,2U,2AE,2O,2E,2EU,2KA,2QA,2GA,2on,2CA,2JA,2ZA,2ph,2TA,2DA,2NA,2PA,2FA",
   "2VA,2BA,2MA,2YA,2RA,2LA,2WA,2SA,2XA,2HA,1dvuaPAMINGKAL,3PANYAKRA,3PANYIKU,1yvuaPANGHULU,3PANYUKU",
   "3PANAELAENG,3PANOLONG,3PAMEPET,3PANEULEUNG,1uaPAMAAEH,2yq,1dvuaPASANGAN MA,4WA,1mqlm,2SYA,1fhzv,2po",
   "2ya,2wu,2hy,2hq,2uf,2tg,2gc,2oq,1bg,1mqREU,2LEU,2by,2hjK,3M,0BATAKmqA,2ubA,2HA,2ubHA,2MANDAILING HA",
   "2BA,2KARO BA,2PA,2ubPA,2NA,2MANDAILING NA,2WA,2ubWA,2PAKPAK WA,2GA,2ubGA,2JA,2DA,2RA,2ubRA,2MA,2ubMA",
   "2SOUTHERN TA,2NORTHERN TA,2SA,2ubSA,2MANDAILING SA,2YA,2ubYA,2on,2LA,2ubLA,2ph,2CA,2NDA,2MBA,2I,2U",
   "1uaTOMPI,1yvuaE,3PAKPAK E,3EE,3I,3KARO I,3O,3KARO O,3U,4huubSA,1dvuaNG,3H,1PANGOLAT,1PANONGONAN,+8",
   "1vtBINDU NA METEK,3PINARBORAS,3JUDUL,3PANGOLAT,0LEPCHAmqKA,2KLA,2lm,2GA,2GLA,2on,2CA,2cy,2JA,2ph,2TA",
   "2wh,2DA,2NA,2PA,2PLA,2ql,2FA,2FLA,2BA,2BLA,2MA,2MLA,2xo,2xp,2DZA,2YA,2RA,2LA,2HA,2HLA,2VA,2SA,2tj",
   "2WA,2A,1vhmqYA,3RA,1yvuaAA,3I,3O,3OO,3U,3UU,3E,1dvuaK,3M,3L,3N,3P,3R,3T,3NYIN-DO,3KANG,1uaRAN,2pd,+3",
   "1rcTA-ROL,2NYET THYOOM TA-ROL,2CER-WA,2TSHOOK CER-WA,3,1fhzv,2po,2ya,2wu,2hy,2hq,2uf,2tg,2gc,2oq,+3",
   "1mqxr,2xs,2eu,0OL CHIKIfhzv,3po,3ya,3wu,3hy,3hq,3uf,3tg,3gc,3oq,2mqLA,3AT,3AG,3ANG,3AL,3LAA,3AAK",
   "3AAJ,3AAM,3AAW,3LI,3IS,3IH,3INY,3IR,3LU,3UC,3UD,3UNN,3UY,3LE,3EP,3EDD,3EN,3ERR,3LO,3OTT,3OB,3OV,3OH",
   "2MU TTUDDAG,2GAAHLAA TTUDDAAG,2MU-GAAHLAA TTUDDAAG,2RELAA,2PHAARKAA,2AHAD,2rcMUCAAD,3fsMUCAAD",
   "0elulmqsmVE,3LONG-LEGGED DE,3NARROW O,3WIDE ES,3TALL TE,3THREE-LEGGED TE,3TALL HARDua,4YAT",
   "3UNBLENDED UK,+7,0GEORGIAN MTAVRULIcpmqAN,4BAN,4GAN,4DON,4EN,4VIN,4ZEN,4TAN,4IN,4KAN,4LAS,4nj,4NAR",
   "4ON,4PAR,4ZHAR,4RAE,4SAN,4TAR,4UN,4PHAR,4KHAR,4GHAN,4QAR,4tu,4CHIN,4CAN,4JIL,4CIL,4CHAR,4XAN,4JHAN",
   "4HAE,4HE,4HIE,4WE,4HAR,4HOE,4FI,4YN,4ELIFI,4xuGAN,4af,+2,4AEN,4HARDua,4LABIALua",
   "0SUNDANESErcBINDU SURYA,3PANGLONG,3PURNAMA,3CAKRA,3LEU SATANGA,3KA SATANGA,3DA SATANGA,3BA SATANGA",
   "+8,0VEDICxaKARSHANA,2SHARA,2PRENKHA,1uaNIHSHVASA,2YAJURVEDIC MIDLINEvq,1xaYAJURVEDIC AGGRAVATEDkevq",
   "3kevq,3KATHAKAkevq,2cnbs,2YAJURVEDIC KATHAKAkevqSCHROEDER,2fsvq,2xnvq,2KATHAKA ANUDATTA,2fobs",
   "2yafqbs,2wufqbs,2RIGVEDIC KASHMIRIkevq,2ATHARVAVEDICkevq,1uayrvq,3UDATTA,2rtyrUDATTA,2yrANUDATTA",
   "2rtyrANUDATTA,2yrUDATTAzevw,3ANUDATTAzevw,2atANTARGOMUKHA,3BAHIRGOMUKHA,3VAMAGOMUKHA,4zevw,2TIRYAK",
   "2HEXIFORMmxat,2mxat,2RTHANGmxat,2atUBHAYATO MUKHA,2ARDHAVISARGA,2siARDHAVISARGA,1xacnac,1ualb,2yg",
   "2ATIKRAMA,1xasfac,2fssfac,1uafsatANTARGOMUKHA,+5,0memqulcpA,4AE,1ulmqxuAE,1mqulcpbqB,4C,4D,4ETH,4E",
   "1ulmqxuppE,4I,1mqulcpJ,4K,4Lzevf,4M,4rtN,4O,4ppO,1ulmqtyO,4ppO,4Ozevf,3xuOE,1mqulcpOU,1ulmqxhiuO",
   "3cfiuO,1mqulcpP,4rtR,4xuR,4T,4U,1ulmqtyU,4DIAERESIZED U,4xuM,1mqulcpV,4W,4Z,4EZH",
   "2ytLARYNGEAL SPIRANT,2af,0iqmqulcpid,4ma,4PI,4ru,4ra,0elmqulcpEL,0nwmqcpA,3AE,3B,3bqB,3D,3E,3rtE,3G",
   "3H,3I,3J,3K,3L,3M,3N,3rtN,3O,3OU,3P,3R,3T,3U,3W,2ulA,3xuA,3al,3xuAE,3B,3D,3E,3sv,3ppE,3xuppE,3G,3xuI",
   "3K,3M,3ENG,3O,3ppO,3xhiuO,3cfiuO,3P,3T,3U,3tyU,3xuM,3V,3af,3bv,3iqid,3ex,3iqqm,3de,0mevjulmqI,4R,4U",
   "4V,0iqvjulmqbv,4id,4ru,4qm,4de,0meulmqUE,3Bzenswy,3Dzenswy,3Fzenswy,3Mzenswy,3Nzenswy,3Pzenswy",
   "3Rzenswy,5hpapnswy,3Szenswy,3Tzenswy,3Zzenswy,3xuG,0nwmqelEN,0meulmqkkG,3THzeSTRIKETHROUGH",
   "2cpmqIzevf,2mqkqzevf,3Pzevf,2cpmqUzevf,2mqyizevf,3Bzeqbjs,3Dzeqbjs,3Fzeqbjs,3Gzeqbjs,3Kzeqbjs",
   "3Lzeqbjs,3Mzeqbjs,3Nzeqbjs,3Pzeqbjs,3Rzeqbjs,3Szeqbjs,3gtzeqbjs,3Vzeqbjs,3Xzeqbjs,3Zzeqbjs,3Azerrjs",
   "3alzerrjs,3Dzejsapvw,3Ezerrjs,3ppEzerrjs,3rtppEzerrjs,3svzerrjs,3Izerrjs,3ppOzerrjs,3gtzerrjs",
   "3Uzerrjs,3EZHzerrjs,0nwmqulxual,3C,4zeeh,3ETH,3rtppE,3F,3fpJzevf,3sxG,3xuH,3Izevf,3kq,3cpI,5zevf",
   "3Jzeee,3Lzerrjs,5qbjs,3cpL,3Mzejs,3xuMzemxmm,3Nzemgjs,5rrjs,3cpN,3bqO,3qm,3Szejs,3gt,3Tzeqbjs,3Ubo",
   "3yi,3cpU,3Vzejs,3xuV,3Z,4zerrjs,5eh,3EZH,3wl,0dqfrioad,2aead,1SNAKEbs,1SUSPENSIONnk,1MACRON-ACUTE",
   "1GRAVE-MACRON,1MACRON-GRAVE,1ACUTE-MACRON,1GRAVE-ACUTE-GRAVE,1ACUTE-GRAVE-ACUTE,1meulmqRbs",
   "1BREVE-MACRON,1MACRON-BREVE,1fsdkac,1pkac,1zzbs,1ISbs,1URac,1USac,1meulmqFLATTENEDppAac,4AE,4AO,4AV",
   "4Cct,4kkD,4ETH,4G,2mqulcpG,2ulmqK,4L,2mqulcpL,5M,2ulmqN,2mqulcpN,5R,2ulmqR ROTUNDA,4S,4mxS,4Z,4al,4B",
   "4bv,4sv,4F,4Lzefsnswy,4Ozemscvvf,4P,4gt,4Uzemscvvf,4W,4Azefa,4Ozefa,4Uzefa,1UPvuac,1KAVYKAacrz,3mg",
   "1foacmg,1WIDEkpBRIDGEbs,1fobsmg,1DELETIONnk,1fskpcibs,1ajgoTObs,1mgbbac,1rzbbapfvbbbs,0mecpmqAzesfbs",
   "1ulmqAzesfbs,1cpmqBzefoac,1ulmqBzefoac,1cpmqBzefobs,1ulmqBzefobs,1cpmqBzemtbs,1ulmqBzemtbs",
   "1cpmqCzectapae,1ulmqCzectapae,1cpmqDzefoac,1ulmqDzefoac,1cpmqDzefobs,1ulmqDzefobs,1cpmqDzemtbs",
   "1ulmqDzemtbs,1cpmqDzect,1ulmqDzect,1cpmqDzedkbs,1ulmqDzedkbs,1cpmqEzeneapio,1ulmqEzeneapio",
   "1cpmqEzeneapae,1ulmqEzeneapae,1cpmqEzedkbs,1ulmqEzedkbs,1cpmqEzewybs,1ulmqEzewybs,1cpmqEzectapci",
   "1ulmqEzectapci,1cpmqFzefoac,1ulmqFzefoac,1cpmqGzene,1ulmqGzene,1cpmqHzefoac,1ulmqHzefoac",
   "1cpmqHzefobs,1ulmqHzefobs,1cpmqHzefa,1ulmqHzefa,1cpmqHzect,1ulmqHzect,1cpmqHzecibs,1ulmqHzecibs",
   "1cpmqIzewybs,1ulmqIzewybs,1cpmqIzefaapae,1ulmqIzefaapae,1cpmqKzeae,1ulmqKzeae,1cpmqKzefobs",
   "1ulmqKzefobs,1cpmqKzemtbs,1ulmqKzemtbs,1cpmqLzefobs,1ulmqLzefobs,1cpmqLzefobsapne,1ulmqLzefobsapne",
   "1cpmqLzemtbs,1ulmqLzemtbs,1cpmqLzedkbs,1ulmqLzedkbs,1cpmqMzeae,1ulmqMzeae,1cpmqMzefoac,1ulmqMzefoac",
   "1cpmqMzefobs,1ulmqMzefobs,1cpmqNzefoac,1ulmqNzefoac,1cpmqNzefobs,1ulmqNzefobs,1cpmqNzemtbs",
   "1ulmqNzemtbs,1cpmqNzedkbs,1ulmqNzedkbs,1cpmqOzewyapae,1ulmqOzewyapae,1cpmqOzewyapfa,1ulmqOzewyapfa",
   "1cpmqOzeneapio,1ulmqOzeneapio,1cpmqOzeneapae,1ulmqOzeneapae,1cpmqPzeae,1ulmqPzeae,1cpmqPzefoac",
   "1ulmqPzefoac,1cpmqRzefoac,1ulmqRzefoac,1cpmqRzefobs,1ulmqRzefobs,1cpmqRzefobsapne,1ulmqRzefobsapne",
   "1cpmqRzemtbs,1ulmqRzemtbs,1cpmqSzefoac,1ulmqSzefoac,1cpmqSzefobs,1ulmqSzefobs,1cpmqSzeaeapfoac",
   "1ulmqSzeaeapfoac,1cpmqSzecrapfoac,1ulmqSzecrapfoac,1cpmqSzefobsapfoac,1ulmqSzefobsapfoac",
   "1cpmqTzefoac,1ulmqTzefoac,1cpmqTzefobs,1ulmqTzefobs,1cpmqTzemtbs,1ulmqTzemtbs,1cpmqTzedkbs",
   "1ulmqTzedkbs,1cpmqUzefabs,1ulmqUzefabs,1cpmqUzewybs,1ulmqUzewybs,1cpmqUzedkbs,1ulmqUzedkbs",
   "1cpmqUzewyapae,1ulmqUzewyapae,1cpmqUzeneapfa,1ulmqUzeneapfa,1cpmqVzewy,1ulmqVzewy,1cpmqVzefobs",
   "1ulmqVzefobs,1cpmqWzeio,1ulmqWzeio,1cpmqWzeae,1ulmqWzeae,1cpmqWzefa,1ulmqWzefa,1cpmqWzefoac",
   "1ulmqWzefoac,1cpmqWzefobs,1ulmqWzefobs,1cpmqXzefoac,1ulmqXzefoac,1cpmqXzefa,1ulmqXzefa,1cpmqYzefoac",
   "1ulmqYzefoac,1cpmqZzedk,1ulmqZzedk,1cpmqZzefobs,1ulmqZzefobs,1cpmqZzemtbs,1ulmqZzemtbs,3Hzemtbs",
   "3Tzefa,3Wzesfac,3Yzesfac,3Azerziusf,3mxSzefoac,6fbvf,6jnvf,1cpmqSHARP S,1ulmqex,1cpmqAzefobs",
   "1ulmqAzefobs,1cpmqAzejsac,1ulmqAzejsac,1cpmqAzedkapae,1ulmqAzedkapae,1cpmqAzedkapio,1ulmqAzedkapio",
   "1cpmqAzedkapjsac,1ulmqAzedkapjsac,1cpmqAzedkapwy,1ulmqAzedkapwy,1cpmqAzedkapfobs,1ulmqAzedkapfobs",
   "1cpmqAzeciapae,1ulmqAzeciapae,1cpmqAzeciapio,1ulmqAzeciapio,1cpmqAzeciapjsac,1ulmqAzeciapjsac",
   "1cpmqAzeciapwy,1ulmqAzeciapwy,1cpmqAzeciapfobs,1ulmqAzeciapfobs,1cpmqEzefobs,1ulmqEzefobs",
   "1cpmqEzejsac,1ulmqEzejsac,1cpmqEzewy,1ulmqEzewy,1cpmqEzedkapae,1ulmqEzedkapae,1cpmqEzedkapio",
   "1ulmqEzedkapio,1cpmqEzedkapjsac,1ulmqEzedkapjsac,1cpmqEzedkapwy,1ulmqEzedkapwy,1cpmqEzedkapfobs",
   "1ulmqEzedkapfobs,1cpmqIzejsac,1ulmqIzejsac,1cpmqIzefobs,1ulmqIzefobs,1cpmqOzefobs,1ulmqOzefobs",
   "1cpmqOzejsac,1ulmqOzejsac,1cpmqOzedkapae,1ulmqOzedkapae,1cpmqOzedkapio,1ulmqOzedkapio",
   "1cpmqOzedkapjsac,1ulmqOzedkapjsac,1cpmqOzedkapwy,1ulmqOzedkapwy,1cpmqOzedkapfobs,1ulmqOzedkapfobs",
   "1cpmqOzejuapae,1ulmqOzejuapae,1cpmqOzejuapio,1ulmqOzejuapio,1cpmqOzejuapjsac,1ulmqOzejuapjsac",
   "1cpmqOzejuapwy,1ulmqOzejuapwy,1cpmqOzejuapfobs,1ulmqOzejuapfobs,1cpmqUzefobs,1ulmqUzefobs",
   "1cpmqUzejsac,1ulmqUzejsac,1cpmqUzejuapae,1ulmqUzejuapae,1cpmqUzejuapio,1ulmqUzejuapio",
   "1cpmqUzejuapjsac,1ulmqUzejuapjsac,1cpmqUzejuapwy,1ulmqUzejuapwy,1cpmqUzejuapfobs,1ulmqUzejuapfobs",
   "1cpmqYzeio,1ulmqYzeio,1cpmqYzefobs,1ulmqYzefobs,1cpmqYzejsac,1ulmqYzejsac,1cpmqYzewy,1ulmqYzewy",
   "1cpmqntLL,1ulmqntLL,1cpmqntV,1ulmqntV,1cpmqYzemz,1ulmqYzemz,0iqulmqalzerb,5et,5rbapyk,5etapyk",
   "5rbappz,5etappz,5rbapqj,5etapqj,1cpmqalzerb,5et,5rbapyk,5etapyk,5rbappz,5etappz,5rbapqj,5etapqj",
   "1ulmqgnzerb,5et,5rbapyk,5etapyk,5rbappz,5etappz,+2,1cpmqgnzerb,5et,5rbapyk,5etapyk,5rbappz,5etappz",
   "+2,1ulmqguzerb,5et,5rbapyk,5etapyk,5rbappz,5etappz,5rbapqj,5etapqj,1cpmqguzerb,5et,5rbapyk,5etapyk",
   "5rbappz,5etappz,5rbapqj,5etapqj,1ulmqkqzerb,5et,5rbapyk,5etapyk,5rbappz,5etappz,5rbapqj,5etapqj",
   "1cpmqkqzerb,5et,5rbapyk,5etapyk,5rbappz,5etappz,5rbapqj,5etapqj,1ulmqpnzerb,5et,5rbapyk,5etapyk",
   "5rbappz,5etappz,+2,1cpmqpnzerb,5et,5rbapyk,5etapyk,5rbappz,5etappz,+2,1ulmqyizerb,5et,5rbapyk",
   "5etapyk,5rbappz,5etappz,5rbapqj,5etapqj,+1,1cpmqyizeet,+1,6apyk,+1,7pz,+1,7qj,1ulmqpmzerb,5et",
   "5rbapyk,5etapyk,5rbappz,5etappz,5rbapqj,5etapqj,1cpmqpmzerb,5et,5rbapyk,5etapyk,5rbappz,5etappz",
   "5rbapqj,5etapqj,1ulmqalzeyk,5pz,3gnzeyk,5pz,3guzeyk,5pz,3kqzeyk,5pz,3pnzeyk,5pz,3yizeyk,5pz,3pmzeyk",
   "5pz,+2,3alzerbapzp,5etapzp,5rbapykapzp,5etapykapzp,5rbappzapzp,5etappzapzp,5rbapqjapzp,5etapqjapzp",
   "1cpmqalzerbapqz,5etapqz,5rbapykapqz,5etapykapqz,5rbappzapqz,5etappzapqz,5rbapqjapqz,5etapqjapqz",
   "1ulmqguzerbapzp,5etapzp,5rbapykapzp,5etapykapzp,5rbappzapzp,5etappzapzp,5rbapqjapzp,5etapqjapzp",
   "1cpmqguzerbapqz,5etapqz,5rbapykapqz,5etapykapqz,5rbappzapqz,5etappzapqz,5rbapqjapqz,5etapqjapqz",
   "1ulmqpmzerbapzp,5etapzp,5rbapykapzp,5etapykapzp,5rbappzapzp,5etappzapzp,5rbapqjapzp,5etapqjapzp",
   "1cpmqpmzerbapqz,5etapqz,5rbapykapqz,5etapykapqz,5rbappzapqz,5etappzapqz,5rbapqjapqz,5etapqjapqz",
   "1ulmqalzeVRACHY,5ne,5ykapzp,5zp,5pzapzp,+1,5qj,6apzp,1cpmqalzeVRACHY,5ne,5yk,5pz,5qz,1KORONIS,1qz",
   "1rb,1qj,1fdapqj,1ulmqguzeykapzp,5zp,5pzapzp,+1,5qj,6apzp,1cpmqgnzeyk,5pz,3guzeyk,5pz,5qz,1rbapyk,3pz",
   "3qj,1ulmqkqzeVRACHY,5ne,5fdapyk,7pz,+2,5qj,5fdapqj,1cpmqkqzeVRACHY,5ne,5yk,5pz,+1,1etapyk,3pz,3qj",
   "1ulmqyizeVRACHY,5ne,5fdapyk,7pz,3ruzerb,5et,3yizeqj,5fdapqj,1cpmqyizeVRACHY,5ne,5yk,5pz,3ruzeet",
   "1fdapyk,3pz,1yk,+2,1ulmqpmzeykapzp,5zp,5pzapzp,+1,5qj,6apzp,1cpmqpnzeyk,5pz,3pmzeyk,5pz,5qz,1pz,1et"]

end SdkGen.Text.Table
