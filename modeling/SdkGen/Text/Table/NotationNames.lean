/-!
# Names of notations

The names of the characters from 1D000 on, which are mostly notations and pictures. The rows are read
by `CharacterName.find?`.
-/

namespace SdkGen.Text.Table

/-- The names of the characters from 1D000 on, which are mostly notations and pictures. -/
def notationNames : List String :=
  ["0BYZANTINEohvtrb,3DASEIA,3qj,3OXEIAgh,4DIPLI,3VAREIAgh,4DIPLI,3KATHISTI,3SYRMATIKI,3PARAKLITIKI",
   "3YPOKRISIS,4DIPLI,3KREMASTI,3APESOgh,3EXOgh,3TELEIA,3ll,3APOSTROFOS,4DIPLI,3SYNEVMA,3THITA,3OLIGONaz",
   "3GORGONaz,3PSILON,3CHAMILON,3VATHY,3ISONaz,3KENTIMAaz,3llaz,3SAXIMATA,3PARICHON,3STAVROS APODEXIA",
   "3OXEIAIaz,3VAREIAIaz,3APODERMAaz,3APOTHEMA,3KLASMA,3REVMA,3PIASMAaz,3TINAGMA,3ANATRICHISMA,3SEISMA",
   "3SYNAGMAaz,4META STAVROU,3OYRANISMAaz,3THEMA,3LEMOI,3DYO,3TRIA,3TESSERA,3KRATIMATA,3APESO EXOok",
   "3FTHORAaz,3IMIFTHORA,3TROMIKONaz,3KATAVA TROMIKON,3PELASTON,3PSIFISTON,3KONTEVMA,3CHOREVMAaz",
   "3RAPISMA,3PARAKALESMAaz,3PARAKLITIKIaz,3ICHADIN,3NANA,3PETASMA,3KONTEVMA ALLO,3TROMIKON ALLO",
   "3STRAGGISMATA,3GRONTHISMATA,3ISONok,3OLIGONok,3OXEIAok,3PETASTI,3KOUFISMA,3PETASTOKOUFISMA",
   "3KRATIMOKOUFISMA,3PELASTONok,3llokANO,3KENTIMAokANO,3YPSILI,3APOSTROFOSok,3APOSTROFOI SYNDESMOSok",
   "3YPORROI,3KRATIMOYPORROON,3ELAFRON,3CHAMILI,3MIKRON ISON,3VAREIAok,3PIASMAok,3PSIFISTONok,3OMALON",
   "3ANTIKENOMA,3LYGISMA,3PARAKLITIKIok,3PARAKALESMAok,3ETERON PARAKALESMA,3KYLISMA,3ANTIKENOKYLISMA",
   "3TROMIKONok,3EKSTREPTON,3SYNAGMAok,3SYRMA,3CHOREVMAok,3EPEGERMA,3SEISMAok,3XIRON KLASMA",
   "3TROMIKOPSIFISTON,3PSIFISTOLYGISMA,3TROMIKOLYGISMA,3TROMIKOPARAKALESMA,3PSIFISTOPARAKALESMA",
   "3TROMIKOSYNAGMA,3PSIFISTOSYNAGMA,3GORGOSYNTHETON,3ARGOSYNTHETON,3ETERON ARGOSYNTHETON,3OYRANISMAok",
   "3THEMATISMOS ESO,4EXO,3THEMA APLOUN,3THES KAI APOTHES,3KATAVASMA,3ENDOFONON,3YFEN KATO,4ANO,3STAVROS",
   "3KLASMA ANO,3DIPLIaz,3KRATIMAaz,4ALLO,4ok,3APODERMAok,3APLI,3DIPLI,3TRIPLI,3TETRAPLI,3KORONIS",
   "3LEIMMA ENOS CHRONOU,4DYO CHRONON,4TRION CHRONON,4TESSARON CHRONON,4IMISEOS CHRONOU,3GORGONokANO",
   "4PARESTIGMENON ARISTERA,5DEXIA,3DIGORGON,4PARESTIGMENON ARISTERA KATO,6ANO,5DEXIA,3TRIGORGON,3ARGON",
   "3IMIDIARGON,3DIARGON,3AGOGI POLI ARGI,4ARGOTERI,4ARGI,4METRIA,4MESI,4GORGI,4GORGOTERI,4POLI GORGI",
   "3MARTYRIA PROTOSjz,4ALLI PROTOSjz,4DEYTEROSjz,4ALLI DEYTEROSjz,4TRITOSjz,4TRIFONIAS,4TETARTOSjz",
   "5LEGETOSjz,4LEGETOSjz,4PLAGIOSjz,3ISAKIA TELOUS ICHIMATOS,3APOSTROFOI TELOUS ICHIMATOS",
   "3FANEROSIS TETRAFONIAS,4MONOFONIAS,4DIFONIAS,3MARTYRIA VARYSjz,4PROTOVARYSjz,4PLAGIOS TETARTOSjz",
   "3GORTHMIKON N APLOUN,5DIPLOUN,3ENARXIS KAI FTHORA VOU,3IMIFONON,3IMIFTHORON,3FTHORAazDEYTEROU ICHOU",
   "4DIATONIKI PA,5NANA,4NAOSjz,4DIATONIKI DI,4SKLIRON DIATONON DI,4DIATONIKI KE,5ZO,5NI KATO,6ANO",
   "4MALAKON CHROMA DIFONIAS,6MONOFONIAS,3FHTORA SKLIRON CHROMA VASIS,3FTHORA SKLIRON CHROMA SYNAFI",
   "4NENANO,3CHROA ZYGOS,4KLITON,4SPATHI,3FTHORA I YFESIS TETARTIMORION,4ENARMONIOS ANTIFONIA",
   "3YFESIS TRITIMORION,3DIESIS TRITIMORION,4TETARTIMORION,4APLI DYOfm,4MONOGRAMMOS TESSERAfm",
   "4DIGRAMMOS EXfm,4TRIGRAMMOS OKTOfm,3YFESIS APLI DYOfm,4MONOGRAMMOS TESSERAfm,4DIGRAMMOS EXfm",
   "4TRIGRAMMOS OKTOfm,3GENIKI DIESIS,4YFESIS,3DIASTOLI APLI MIKRI,5MEGALI,4DIPLI,4THESEOS",
   "3SIMANSIS THESEOS,5DISIMOU,5TRISIMOU,5TETRASIMOU,4ARSEOS,5DISIMOU,5TRISIMOU,5TETRASIMOU,3DIGRAMMA GG",
   "3DIFTOGGOS OU,3STIGMA,3ARKTIKO PA,4VOU,4GA,4DI,4KE,4ZO,4NI,3llokMESO,3KENTIMAokMESO,3llokKATO",
   "3KENTIMAokKATO,3KLASMA KATO,3GORGONokKATO,+a,0ohvtudBARLINE,2fsBARLINE,2hjBARLINE,2rshjBARLINE",
   "2esBARLINE,2tvBARLINE,2mgREPEATua,2rzREPEATua,2REPEATfq,2DAL SEGNO,2DA CAPO,2SEGNO,2CODA",
   "2REPEATED FIGURE-1,3FIGURE-2,3FIGURE-3,2FERMATA,3bs,2BREATHnk,2CAESURA,2BRACE,2ch,2ONE-LINE STAFF",
   "2TWO-LINE STAFF,2THREE-LINE STAFF,2FOUR-LINE STAFF,2FIVE-LINE STAFF,2SIX-LINE STAFF",
   "2SIX-STRING FRETBOARD,2FOUR-STRING FRETBOARD,2G CLEF,4OTTAVA ALTA,5BASSA,2C CLEF,2F CLEF",
   "4OTTAVA ALTA,5BASSA,2DRUM CLEF-1,3CLEF-2,+2,2oennrq,2fsSHARP,3FLAT,2FLAT UP,3fv,2NATURAL UP,3fv",
   "2SHARP UP,3fv,2rhxaSHARP,4FLAT,2COMMON TIME,2CUT TIME,2OTTAVA ALTA,3BASSA,2QUINDICESIMA ALTA,3BASSA",
   "2MULTIrq,2WHOLErq,2iurq,2rhrq,2gerq,2uhrq,2THIRTY-SECONDrq,2SIXTY-FOURTHrq,2pojwTWENTY-EIGHTHrq,2Xpb",
   "2qqpb,2dhXpb,2uwpbzc,4cb,2xkpbUPzc,5cb,4mgzc,5cb,4rzzc,5cb,4fvzc,5cb,4UPrzzc,6cb,2nypbzc,4cb",
   "2TRIANGLE-ROUNDpbfvzc,5cb,2qfpb,2VOIDpb,2pbcb,2NULLpb,2CLUSTERpbzc,4cb,2ci,2WHOLEpa,2iupa,2rhpa",
   "2gepa,2uhpa,2THIRTY-SECONDpa,2SIXTY-FOURTHpa,2pojwTWENTY-EIGHTHpa,2dqSTEM,3SPRECHGESANG STEM",
   "3TREMOLO-1,3TREMOLO-2,3TREMOLO-3,2FINGERED TREMOLO-1,3TREMOLO-2,3TREMOLO-3,2dqAUGMENTATIONfo,3FLAG-1",
   "3FLAG-2,3FLAG-3,3FLAG-4,3FLAG-5,2BEGIN BEAM,2glBEAM,2BEGIN TIE,2glTIE,2BEGIN SLUR,2glSLUR",
   "2BEGIN PHRASE,2glPHRASE,2dqad,3STACCATO,3TENUTO,3STACCATISSIMO,3MARCATO,3MARCATO-STACCATO",
   "3ACCENT-STACCATO,3LOURE,2ARPEGGIATO UP,3fv,2dqDOIT,3RIP,3FLIP,3SMEAR,3BEND,3fsxf,3xnxf,2RINFORZANDO",
   "2SUBITO,2Z,2PIANO,2MEZZO,2FORTE,2CRESCENDO,2DECRESCENDO,2GRACEpauk,4NOuk,2TR,2TURN,2kpTURN,2TURNuk",
   "3UP,2ptSTROKE-1,3STROKE-2,3STROKE-3,3STROKE-4,3STROKE-5,3STROKE-6,3STROKE-7,3STROKE-8,3STROKE-9",
   "3STROKE-10,3STROKE-11,2HAUPTSTIMME,2NEBENSTIMME,2glOF STIMME,2DEGREEuk,2dqfvBOW,3UP BOW,3HARMONIC",
   "3SNAP PIZZICATO,2PEDALnk,3UPnk,2iuPEDALnk,2GLISSANDO UP,3fv,2zeFINGERNAILS,2DAMP,3ALL,2MAXIMA,2LONGA",
   "2BREVIS,2SEMIBREVISzc,3cb,2MINIMA,3cb,2SEMIMINIMAzc,3cb,2FUSAzc,3cb,2LONGA PERFECTArq,3IMPERFECTArq",
   "2BREVISrq,2SEMIBREVISrq,2MINIMArq,2SEMIMINIMArq,2TEMPUS PERFECTUM CUM PROLATIONE PERFECTA",
   "6IMPERFECTA,6PERFECTA DIMINUTION-1,3IMPERFECTUM CUM PROLATIONE PERFECTA,6IMPERFECTA,7DIMINUTION-1",
   "7DIMINUTION-2,7DIMINUTION-3,2CROIX,2GREGORIAN C CLEF,3F CLEF,2uwB,2VIRGA,2PODATUS,2CLIVIS,2SCANDICUS",
   "2CLIMACUS,2TORCULUS,2PORRECTUS,3FLEXUS,2SCANDICUS FLEXUS,2TORCULUS RESUPINUS,2PES SUBPUNCTIS",
   "2KIEVAN C CLEF,3glOF PIECE,3hjpa,3RECITATIVEnk,3WHOLEpa,3iupa,3rhpaSTEMfv,6UP,3gepaSTEMfv,6UP",
   "3FLATua,2SORI,2KORON,+15,0iqVOCALoySYMBOL-1,3SYMBOL-2,3SYMBOL-3,3SYMBOL-4,3SYMBOL-5,3SYMBOL-6",
   "3SYMBOL-7,3SYMBOL-8,3SYMBOL-9,3SYMBOL-10,3SYMBOL-11,3SYMBOL-12,3SYMBOL-13,3SYMBOL-14,3SYMBOL-15",
   "3SYMBOL-16,3SYMBOL-17,3SYMBOL-18,3SYMBOL-19,3SYMBOL-20,3SYMBOL-21,3SYMBOL-22,3SYMBOL-23,3SYMBOL-24",
   "3SYMBOL-50,3SYMBOL-51,3SYMBOL-52,3SYMBOL-53,3SYMBOL-54,1INSTRUMENTALoySYMBOL-1,3SYMBOL-2,3SYMBOL-4",
   "3SYMBOL-5,3SYMBOL-7,3SYMBOL-8,3SYMBOL-11,3SYMBOL-12,3SYMBOL-13,3SYMBOL-14,3SYMBOL-17,3SYMBOL-18",
   "3SYMBOL-19,3SYMBOL-23,3SYMBOL-24,3SYMBOL-25,3SYMBOL-26,3SYMBOL-27,3SYMBOL-29,3SYMBOL-30,3SYMBOL-32",
   "3SYMBOL-36,3SYMBOL-37,3SYMBOL-38,3SYMBOL-39,3SYMBOL-40,3SYMBOL-42,3SYMBOL-43,3SYMBOL-45,3SYMBOL-47",
   "3SYMBOL-48,3SYMBOL-49,3SYMBOL-50,3SYMBOL-51,3SYMBOL-52,3SYMBOL-53,3SYMBOL-54,0dqiqohTRISEME",
   "3TETRASEME,3PENTASEME,0iqohLEIMMA,+9a,0MAYANpfzv,2po,2ya,2wu,2hy,2hq,2uf,2tg,2gc,2oq,2wf,2gj,2xx,2wp",
   "2hz,2hf,2ug,2th,2gd,2or,+c,0nxhufz,0DIGRAMhuHEAVENLYfz,2HUMANfz,2EARTHLY HEAVEN,3HUMAN,2fz",
   "0TETRAGRAMhucw,2icdh,2MIRED,2BARRIER,2KEEPINGul,2CONTRARIETY,2ASCENT,2OPPOSITION,2BRANCHING OUT",
   "2DEFECTIVENESS OR DISTORTION,2DIVERGENCE,2YOUTHFULNESS,2INCREASE,2PENETRATION,2REACH,2CONTACT,2jrbi",
   "2WAITING,2FOLLOWING,2ADVANCE,2RELEASE,2RESISTANCE,2EASE,2JOY,2CONTENTION,2ENDEAVOUR,2DUTIES,2CHANGE",
   "2DECISIVENESS,2ceRESOLUTION,2PACKING,2LEGION,2CLOSENESS,2KINSHIP,2GATHERING,2STRENGTH,2PURITY",
   "2FULLNESS,2RESIDENCE,2LAW OR MODEL,2RESPONSE,2GOING TO MEET,2ENCOUNTERS,2STOVE,2GREATNESS",
   "2ENLARGEMENT,2PATTERN,2RITUAL,2FLIGHT,2VASTNESS OR WASTING,2CONSTANCY,2nn,2ETERNITY,2UNITY",
   "2DIMINISHMENT,2dnoa,2GUARDEDNESS,2GATHERING IN,2MASSING,2ACCUMULATION,2EMBELLISHMENT,2DOUBT,2WATCH",
   "2SINKING,2INNER,2DEPARTURE,2DARKENING,2DIMMING,2EXHAUSTION,2SEVERANCE,2STOPPAGE,2HARDNESS",
   "2COMPLETION,2CLOSURE,2FAILURE,2AGGRAVATION,2COMPLIANCE,2ONwiVERGE,2DIFFICULTIES,2LABOURING",
   "2FOSTERING,+9,0COUNTING ROD UNITfhpo,4ya,4wu,4hy,4hq,4uf,4tg,4gc,4oq,2TENSfhpo,4ya,4wu,4hy,4hq,4uf",
   "4tg,4gc,4oq,0kaTALLYnkpo,3ya,3wu,3hy,3hq,0TALLYnkpo,2hq,+87,0nmcecpA,3B,3C,3D,3E,3F,3G,3H,3I,3J,3K",
   "3L,3M,3N,3O,3P,3Q,3R,3S,3T,3U,3V,3W,3X,3Y,3Z,2ulA,3B,3C,3D,3E,3F,3G,3H,3I,3J,3K,3L,3M,3N,3O,3P,3Q,3R",
   "3S,3T,3U,3V,3W,3X,3Y,3Z,1kucpA,3B,3C,3D,3E,3F,3G,3H,3I,3J,3K,3L,3M,3N,3O,3P,3Q,3R,3S,3T,3U,3V,3W,3X",
   "3Y,3Z,2ulA,3B,3C,3D,3E,3F,3G,+1,3I,3J,3K,3L,3M,3N,3O,3P,3Q,3R,3S,3T,3U,3V,3W,3X,3Y,3Z,1cekucpA,4B,4C",
   "4D,4E,4F,4G,4H,4I,4J,4K,4L,4M,4N,4O,4P,4Q,4R,4S,4T,4U,4V,4W,4X,4Y,4Z,3ulA,4B,4C,4D,4E,4F,4G,4H,4I,4J",
   "4K,4L,4M,4N,4O,4P,4Q,4R,4S,4T,4U,4V,4W,4X,4Y,4Z,1sxcpA,+1,3C,3D,+2,3G,+2,3J,3K,+2,3N,3O,3P,3Q,+1,3S",
   "3T,3U,3V,3W,3X,3Y,3Z,2ulA,3B,3C,3D,+1,3F,+1,3H,3I,3J,3K,3L,3M,3N,+1,3P,3Q,3R,3S,3T,3U,3V,3W,3X,3Y,3Z",
   "1cesxcpA,4B,4C,4D,4E,4F,4G,4H,4I,4J,4K,4L,4M,4N,4O,4P,4Q,4R,4S,4T,4U,4V,4W,4X,4Y,4Z,3ulA,4B,4C,4D,4E",
   "4F,4G,4H,4I,4J,4K,4L,4M,4N,4O,4P,4Q,4R,4S,4T,4U,4V,4W,4X,4Y,4Z,1FRAKTURcpA,3B,+1,3D,3E,3F,3G,+2,3J",
   "3K,3L,3M,3N,3O,3P,3Q,+1,3S,3T,3U,3V,3W,3X,3Y,+1,2ulA,3B,3C,3D,3E,3F,3G,3H,3I,3J,3K,3L,3M,3N,3O,3P,3Q",
   "3R,3S,3T,3U,3V,3W,3X,3Y,3Z,1fucpA,3B,+1,3D,3E,3F,3G,+1,3I,3J,3K,3L,3M,+1,3O,+3,3S,3T,3U,3V,3W,3X,3Y",
   "+1,2ulA,3B,3C,3D,3E,3F,3G,3H,3I,3J,3K,3L,3M,3N,3O,3P,3Q,3R,3S,3T,3U,3V,3W,3X,3Y,3Z,1ceFRAKTURcpA,4B",
   "4C,4D,4E,4F,4G,4H,4I,4J,4K,4L,4M,4N,4O,4P,4Q,4R,4S,4T,4U,4V,4W,4X,4Y,4Z,3ulA,4B,4C,4D,4E,4F,4G,4H,4I",
   "4J,4K,4L,4M,4N,4O,4P,4Q,4R,4S,4T,4U,4V,4W,4X,4Y,4Z,1stcpA,3B,3C,3D,3E,3F,3G,3H,3I,3J,3K,3L,3M,3N,3O",
   "3P,3Q,3R,3S,3T,3U,3V,3W,3X,3Y,3Z,2ulA,3B,3C,3D,3E,3F,3G,3H,3I,3J,3K,3L,3M,3N,3O,3P,3Q,3R,3S,3T,3U,3V",
   "3W,3X,3Y,3Z,2cecpA,4B,4C,4D,4E,4F,4G,4H,4I,4J,4K,4L,4M,4N,4O,4P,4Q,4R,4S,4T,4U,4V,4W,4X,4Y,4Z,3ulA",
   "4B,4C,4D,4E,4F,4G,4H,4I,4J,4K,4L,4M,4N,4O,4P,4Q,4R,4S,4T,4U,4V,4W,4X,4Y,4Z,2kucpA,4B,4C,4D,4E,4F,4G",
   "4H,4I,4J,4K,4L,4M,4N,4O,4P,4Q,4R,4S,4T,4U,4V,4W,4X,4Y,4Z,3ulA,4B,4C,4D,4E,4F,4G,4H,4I,4J,4K,4L,4M,4N",
   "4O,4P,4Q,4R,4S,4T,4U,4V,4W,4X,4Y,4Z,2cekucpA,5B,5C,5D,5E,5F,5G,5H,5I,5J,5K,5L,5M,5N,5O,5P,5Q,5R,5S",
   "5T,5U,5V,5W,5X,5Y,5Z,4ulA,5B,5C,5D,5E,5F,5G,5H,5I,5J,5K,5L,5M,5N,5O,5P,5Q,5R,5S,5T,5U,5V,5W,5X,5Y,5Z",
   "1MONOSPACEcpA,3B,3C,3D,3E,3F,3G,3H,3I,3J,3K,3L,3M,3N,3O,3P,3Q,3R,3S,3T,3U,3V,3W,3X,3Y,3Z,2ulA,3B,3C",
   "3D,3E,3F,3G,3H,3I,3J,3K,3L,3M,3N,3O,3P,3Q,3R,3S,3T,3U,3V,3W,3X,3Y,3Z,1kuulfpI,4J,+2,1cecpal,3bv,3id",
   "3ex,3gn,3zw,3gu,3wl,3kq,3lf,3ma,3MU,3NU,3XI,3pn,3PI,3ru,3wlvt,3tz,3vz,3yi,3qm,3de,3ra,3pm,2NABLA",
   "2ulal,3bv,3id,3ex,3gn,3zw,3gu,3wl,3kq,3lf,3ma,3MU,3NU,3XI,3pn,3PI,3ru,3hjtz,3tz,3vz,3yi,3qm,3de,3ra",
   "3pm,2qhfg,2gnvt,2wlvt,2lfvt,2qmvt,2ruvt,2PIvt,1kucpal,3bv,3id,3ex,3gn,3zw,3gu,3wl,3kq,3lf,3ma,3MU",
   "3NU,3XI,3pn,3PI,3ru,3wlvt,3tz,3vz,3yi,3qm,3de,3ra,3pm,2NABLA,2ulal,3bv,3id,3ex,3gn,3zw,3gu,3wl,3kq",
   "3lf,3ma,3MU,3NU,3XI,3pn,3PI,3ru,3hjtz,3tz,3vz,3yi,3qm,3de,3ra,3pm,2qhfg,2gnvt,2wlvt,2lfvt,2qmvt",
   "2ruvt,2PIvt,1cekucpal,4bv,4id,4ex,4gn,4zw,4gu,4wl,4kq,4lf,4ma,4MU,4NU,4XI,4pn,4PI,4ru,4wlvt,4tz,4vz",
   "4yi,4qm,4de,4ra,4pm,3NABLA,3ulal,4bv,4id,4ex,4gn,4zw,4gu,4wl,4kq,4lf,4ma,4MU,4NU,4XI,4pn,4PI,4ru",
   "4hjtz,4tz,4vz,4yi,4qm,4de,4ra,4pm,3qhfg,3gnvt,3wlvt,3lfvt,3qmvt,3ruvt,3PIvt,1stcecpal,4bv,4id,4ex",
   "4gn,4zw,4gu,4wl,4kq,4lf,4ma,4MU,4NU,4XI,4pn,4PI,4ru,4wlvt,4tz,4vz,4yi,4qm,4de,4ra,4pm,3NABLA,3ulal",
   "4bv,4id,4ex,4gn,4zw,4gu,4wl,4kq,4lf,4ma,4MU,4NU,4XI,4pn,4PI,4ru,4hjtz,4tz,4vz,4yi,4qm,4de,4ra,4pm",
   "3qhfg,3gnvt,3wlvt,3lfvt,3qmvt,3ruvt,3PIvt,3kucpal,5bv,5id,5ex,5gn,5zw,5gu,5wl,5kq,5lf,5ma,5MU,5NU",
   "5XI,5pn,5PI,5ru,5wlvt,5tz,5vz,5yi,5qm,5de,5ra,5pm,4NABLA,4ulal,5bv,5id,5ex,5gn,5zw,5gu,5wl,5kq,5lf",
   "5ma,5MU,5NU,5XI,5pn,5PI,5ru,5hjtz,5tz,5vz,5yi,5qm,5de,5ra,5pm,4qhfg,4gnvt,4wlvt,4lfvt,4qmvt,4ruvt",
   "4PIvt,1cecpDIGAMMA,2ulDIGAMMA,+2,2fhzv,3po,3ya,3wu,3hy,3hq,3uf,3tg,3gc,3oq,1fufhzv,3po,3ya,3wu,3hy",
   "3hq,3uf,3tg,3gc,3oq,1stfhzv,3po,3ya,3wu,3hy,3hq,3uf,3tg,3gc,3oq,2cefhzv,4po,4ya,4wu,4hy,4hq,4uf,4tg",
   "4gc,4oq,1MONOSPACEfhzv,3po,3ya,3wu,3hy,3hq,3uf,3tg,3gc,3oq,0SIGNWRITINGjakf,1iykf,1izkf,1jdkf,1jbkf",
   "1ixkf,1jakfbt,1iykfbt,1jawwyckfbt,2kfrmKNUCKLE,3CUPPED,3jo,4na,1iykfHINGE,1jakfns,1iykfns,1jakfnsbt",
   "4rmKNUCKLES,4jo,3UPnsjo,3jonsUP,3nsdu,5kfbt,5nsbt,5CUPPED,5jo,4ed,1iykfnsed,1jansbtpvkf,2kfbtpvns",
   "3nsww,1iykfnsww,1jakfnsvewwbt,4btwwve,4wwbt,4jouvwwtx,3UPnsjowwtx,7du,3jonsUPwwtx,3nsUPuvwwhx",
   "4wwCUPPED,5di,5HOOKED,5jo,2wwbxkfnsve,2kfnsduwwtx,7du,7bt,2nswwHOOKEDkfUP,2kfwwHOOKEDnsUP",
   "3nsdujowwtx,4edwwtx,4duwwhx,5CUPPEDwwhx,2nswwCUPPEDkfUP,2kfwwCUPPEDnsUP,2nswwdikfUP,6jo",
   "2kfwwANGLED OUTnsUP,5INnsUP,4dinsUP,3nswwdujo,5ANGLED OUT,6,2nswwANGLED OUTkfUP,7ed,5kfUP",
   "2kfwwHOOKEDnsjo,1HAND-FLAThyhm,4bt,4jo,4du,5SPLIT,1HAND-CLAWhyhmdu,1jahyhmdubt,1jbhyhmdu",
   "1HAND-FLAThqhmuv,2HEELhqhmuv,2hqhmuvhybt,2HEELhqhmuvhybt,2hqhmuvbt,2HEELhqhmuvbt,2hqhmuvwwhx",
   "1izhqhmuv,5pp,1jbhqhmuvpp,1jdhqhmuv,1HAND-FLAThqhmuvjo,6wwtx,6NOww,2,2bxPALM FACINGS,2HEEL,2wwtx",
   "2HEELwwtx,2wwbt,3hx,2SPLITkfwwtx,3cw,4wwtx,6bt,3mu,1HAND-CLAW,2wwtx,2NOww,2wwhx,1jcCURLICUE,2,1izpp",
   "2,2ppwwtx,2wwtx,2ppNOww,2NOww,2ppwwhx,2wwhx,1HAND-CURLICUEpp,2,1iy,1jd,2wwtx,2NOww,2wwhx,1jbpp,3wwhx",
   "2,2ul,2ppwwtx,2wwtx,2ppNOww,2NOww,2wwtxTOUCHINGkf,3bxnssf,1ix,1jakfnssf,1iykfnssf,1jbkfnssf",
   "1ixkfnssf,1jbmu,1jakfnssfbt,5du,1jbkfnssfdu,1jamufv,4RIPPLEve,5ek,4OTHERSdi,3UP,2wwycmuUP,1iymuUP",
   "1jdmuUP,1ixmuUP,1jamurmKNUCKLE,3bt,3TOUCHESww,3ww,1jbmuww,1jamukfww,1jbmukfww,1ixmukfwwkfwwOUT,7",
   "1jamukf,1iymukf,1jbmukf,1ixmukf,1jakfnsmu,1iykfnsmu,1jbkfnsmu,2sf,1ixkfnsmu,1jakfnsecmu,1iykfnsecmu",
   "1jasffv,1jbsffvkfwwjsns,1ixsffvnswwkfec,1jasfUP,3rmKNUCKLE,3mu,1iysfmu,1jdsfmu,1ixsfmu,1jasfns,4du",
   "4rmKNUCKLES,3kf,3ww,1jcsfww,1jakfsfmu,1iykfsfmu,1HAND-CURLICUEkfsfmuON,1jckfsfmuOUT,5IN,5yc",
   "1izkfsfmu,1jbkfsfmu,1ixkfsfmuOUT,5,1jansfv,1jbns,1jansUP,1iynsUP,1jansrmKNUCKLE,3UPwwtx,1jcnsww",
   "1janswwmu,3mu,3sfmu,1iynssfmu,1HAND-CURLICUEnssfmuON,1iznssfmu,1jbnssfmu,1ixnssfmuOUT,5IN,5",
   "1iynssfmubt,1HAND-CLAWnssfmudu,6tx,1jcnssfmuduOUT,6IN,6,1jbkfjo,1jakfwwtx,1jbkfwwtx,1jakfwwtxwwfb",
   "6du,6bt,5kfbt,5BOTHbt,5kfHINGE,4hxkfve,6bt,4js,4CURLICUE,4ejwwkj,1HAND-CLAWkfwwejwwkj,1jakfwwejwwyc",
   "4dh,1izkfww,4pp,1jbkfwwpp,4mc,4,4ul,1ixkfwwOUT,4IN,4,1jaww,3HEEL,3txfb,4du,4bt,3hx,3bxkfns,4nssf",
   "4sfmu,3ycyahm,3pvyahm,3ycwuhm,4hyhm,3pvhyrmKNUCKLES,2,2HEEL,1TOUCHud,2oe,2bx,1GRASPud,2oe,2bx",
   "1STRIKEud,2oe,2bx,1BRUSHud,2oe,2bx,1RUBud,2oe,2bx,1SURFACE SYMBOLS,2bx,1SQUEEZEmcud,2ulud,2mcoe",
   "2uloe,2SEQUENTIAL,1FLICKmcud,2ulud,2mcoe,2uloe,2SEQUENTIAL,1SQUEEZE FLICKan,1MOVEMENT-HINGE UPfvmc",
   "4ul,3SEQUENTIAL,2fvSEQUENTIAL,2UPfvanmc,5ul,2txTOtxsw,1odhkCONTACT,1ochkCONTACT,1odudveul,4np,4mc",
   "4md,3ziFLEX,2fsve,3ziFLEX,3an,4ziFLEX,2ec,2xnveob,3ziFLEX,3an,4ziFLEX,2BENDul,3np,3mc,2dzul,3np,3mc",
   "3ROTATION,2dcul,3np,3mc,2cgul,3np,3mc,2zzul,3np,3mc,2PEAKSul,3np,3mc,1TRAVEL-WALLPLANEskud,3fs,3an",
   "2sjud,3fs,3an,2SHAKING,2ARM SPIRALud,4fs,4xn,1MOVEMENT-DIAGONAL AWAYul,3np,3mc,3md,2TOWARDSul,3np",
   "3mc,3md,2bxAWAYul,4np,4mc,4md,3TOWARDSul,4np,4mc,4md,1ocudveul,4np,4mc,4md,3ziFLEX,2fsve,3ziFLEX,3an",
   "4ziFLEX,2ec,2xnveob,3ziFLEX,3anob,4ziFLEX,2BEND,2dzul,3np,3mc,2dc,2cgul,3np,3mc,2zzul,3np,3mc",
   "2PEAKSul,3np,3mc,1TRAVEL-FLOORPLANEsjud,3fs,3an,2skud,3fs,3an,2SHAKING,1odejrhul,4np,4mc,4md",
   "3HALF-CIRCLEul,4np,4mc,4md,3THREE-QUARTERdhul,5np,2HUMPul,3np,3mc,2mzul,3np,3mc,3ulfs,2yyejfsul,5np",
   "5mc,4xnul,5np,5mc,2ejTHENve,2ekecul,4np,1skud,2fs,2am,1odSHAKING,2ejjqFRONTyw,2HUMPjqFRONTyw",
   "2mzjqFRONTyw,2yyjqFRONTyw,1skudjqFRONTyw,2fsjqFRONTyw,2anjqFRONTyw,1odejjqCHEST,2HUMPjqCHEST",
   "2mzjqCHEST,2yyjqCHEST,1skudjqCHEST,2fsjqCHEST,2anjqCHEST,1odyyfbPATHul,5np,5mc,1ocejjqcuul,5mc",
   "2HUMPjqcuulfs,5mcfs,5ulxn,5mcxn,2mzjqcuulud,5mcud,5ulfs,5mcfs,2yyjqcuul,5mc,1sjudjqcu,2fsjqcu",
   "2anjqcu,1ocejjqhsul,5mc,2HUMPjqhsulfs,5mcfs,5xnulxn,6mcxn,2mzjqhsulud,5mcud,5ulfs,5mcfs,2yyjqhsul",
   "5mc,1sjudjqhs,2fsjqhs,2anjqhs,1ocejul,3np,3mc,3md,3COMBINED,2HUMPul,2mzul,2yySNAKE,3ul,3mc,1sjud,2fs",
   "2an,1ocSHAKINGqe,1odARMdhulud,4npud,4ulfs,4npfs,1ocARMdhjqywulud,6npud,6mcud,6ulfs,6npfs,6mcfs",
   "1odzidhFRONTud,5fs,1oczidhjqywud,6fs,1odhkdjud,4fs,1ochkdjjqywud,6fs,1DYNAMICbbul,3mc,2FAST,2SLOW",
   "2TENSE,2RELAXED,2SIMULTANEOUS,3an,2EVERY OTHER TIME,2GRADUAL,1jh,2RIM,2odve,3TILT,2ocve,2odej,2ocej",
   "2obdh,1haDIRECTION POSITION NOSEhxTILTING,5UP ORfv,8TILTING,1EYEBROWSveUP,3om,3fv",
   "1DREAMY EYEBROWSomfv,3fvom,3UPom,3omUP,1FOREHEADom,2CONTACT,2zh,1gzpp,2SQUEEZED,2dn,1EYE BLINKud,3oe",
   "1gziupp,2WIDEpp,2iudn,2WIDENINGob,1EYE WINK,1EYELASHES UP,2fv,2FLUTTERING,1EYEGAZE-WALLPLANEve,3fs",
   "3an,1EYEGAZE-FLOORPLANEve,3fs,3an,1EYEGAZE-WALLPLANEek,1EYEGAZE-FLOORPLANEek",
   "1EYEGAZE-WALLPLANE CIRCLING,1CHEEKS PUFFED,2om,2SUCKED,1TENSE CHEEKSjn,3ns,3na,1EARS,1NOSEom",
   "2CONTACT,2WRINKLES,2WIGGLES,1AIR BLOWING OUT,2SUCKING IN,2BLOWulROTATIONS,2SUCKulROTATIONS",
   "1BREATH INHALE,2EXHALE,1oadnom,3hx,3CONTACT,2SMILE,3zh,3pp,2FROWN,3zh,3pp,2ppdh,3hx,3zh,3OVAL,4zh",
   "4YAWN,3rn,4zh,4YAWN,2KISS,3hx,3zh,2TENSE,3hx,3SUCKED,1LIPS PRESSED TOGETHER,1LIPnbpvyh,2yhpvnb",
   "1oaCORNERS,2WRINKLESud,3fs,1xfSTICKING OUT FAR,2LICKING LIPS,2TIPbxLIPS,3TOUCHINGkjoa,2kjoaRELAXED",
   "2MOVES AGAINST CHEEK,2cwSTICKING OUT,3kjoa,1TEETH,2ob,2ONxf,4ob,3LIPS,4ob,2BITE LIPS,1odJAW,1ocJAW",
   "1NECK,1HAIR,1EXCITEMENT,1SHOULDER HIP SPINE,3POSITIONS,1WALLPLANE SHOULDER HIP MOVE",
   "1FLOORPLANE SHOULDER HIP MOVE,1SHOULDER TILTINGibWAIST,1TORSO-WALLPLANEveSTRETCH,2ekBEND",
   "1TORSO-FLOORPLANE TWISTING,1yhBODY TILTINGibHIP JOINTS,1LIMB COMBINATION,2LENGTH-1,2LENGTH-2",
   "2LENGTH-3,2LENGTH-4,2LENGTH-5,2LENGTH-6,2LENGTH-7,1hk,1LOCATION-WALLPLANEur,1LOCATION-FLOORPLANEur",
   "1LOCATION HEIGHT,2WIDTH,2DEPTH,2jhNECK,2TORSO,2LIMBS DIGITS,1dr,1icvd,1td,1dp,1qf,+f,1hhMODIFIER-2",
   "2MODIFIER-3,2MODIFIER-4,2MODIFIER-5,2MODIFIER-6,+1,1ROTATION MODIFIER-2,2MODIFIER-3,2MODIFIER-4",
   "2MODIFIER-5,2MODIFIER-6,2MODIFIER-7,2MODIFIER-8,2MODIFIER-9,2MODIFIER-10,2MODIFIER-11,2MODIFIER-12",
   "2MODIFIER-13,2MODIFIER-14,2MODIFIER-15,2MODIFIER-16,+450,0meulmqFENGfizeTRILL,3rtsxG,1mqulcpxuG",
   "1ulmqrtK,1mqulcpLzeBELT,1ulmqLEZHzerrjs,3xuYzeBELT,3rtENG,3xuRzemxmmaprrjs,3Tzejsaprrjs",
   "1mqrrdlzerrjs,1ulmqgtzefsbo,7apeh,3xuTzeeh,1mqkpinvdzeeh,2STRETCHED Czeeh,2ulcpxuK,1ulmqLzehp",
   "3DEZHfizeqbjs,3LzeBELTapqbjs,3ENGzeqbjs,3xuRzeqbjs,3Rzehpapqbjs,3TESHfizeqbjs,3EZHzeqbjs",
   "3DEZHfizerrjs,3Izevfaprrjs,3Ozerrjs,3TESHfizerrjs,3Czerrjs,3Szeeh,+e1,0dqGLAGOLITICmqAZU,3BUKY,3VEDE",
   "3GLAGOLI,3DOBRO,3YESTU,3ZHIVETE,+1,3ZEMLJA,3IZHE,3kiIZHE,3I,3DJERVI,3KAKO,3LJUDIJE,3MYSLITE,3NASHI",
   "3ONU,3POKOJI,3RITSI,3SLOVO,3TVRIDO,3UKU,3FRITU,3HERU,+2,3SHTA,3TSI,3CHRIVI,3tj,3zn,3YERI,3YATI,+1",
   "3YU,3ulzq,+1,3YO,3krulzq,3BIGzq,3krBIGzq,3FITA,+d5,0NYIAKENG PUACHUE HMONGmqMA,4xo,4NTA,4TA,4HA,4NA",
   "4XA,4NKA,4CA,4LA,4SA,4ZA,4NCA,4NTSA,4KA,4DA,4ph,4NRA,4VA,4NTXA,4TXA,4FA,4RA,4QA,4YA,4NQA,4PA,4XYA",
   "4NPA,4DLA,4NPLA,4it,4MLA,4PLA,4GA,4sn,4A,4AA,4I,4U,4O,4OO,4E,4EE,4W,+3,3TONE-B,3TONE-M,3TONE-J",
   "3TONE-V,3TONE-S,3TONE-G,3TONE-D,3uahuqk,5THING,5LOCATION,5ANIMAL,5INVERTEBRATE,4XW XW,3vsLENGTHENER",
   "+2,3fhzv,4po,4ya,4wu,4hy,4hq,4uf,4tg,4gc,4oq,+4,3LOGOGRAM NYAJ,3diCA,+140,0TOTOmqPA,2BA,2TA,2DA,2KA",
   "2GA,2MA,2NA,2on,2SA,2cy,2YA,2WA,2JA,2HA,2RA,2LA,2I,2BREATHY I,2IU,2BREATHY IU,2U,2E,2BREATHY E,2EO",
   "2BREATHY EO,2O,2AE,2BREATHY AE,2A,1uasgxa,+11,0WANCHOmqAA,2A,2BA,2CA,2DA,2GA,2YA,2ql,2LA,2NA,2PA,2TA",
   "2wh,2FA,2SA,2tj,2JA,2ZA,2WA,2VA,2KA,2O,2AU,2RA,2MA,2lm,2HA,2E,2I,2on,2U,2LLHA,2xo,2TRA,2ONG,2AANG",
   "2ANG,2ING,2ON,2EN,2AAN,2ph,2UEN,2YIH,1xaTUP,2TUPNI,2KOI,2KOINI,1fhzv,2po,2ya,2wu,2hy,2hq,2uf,2tg,2gc",
   "2oq,+5,1NGUNua,+4e0,0ETHIOPICvsHHYA,2HHYU,2HHYI,2HHYAA,2HHYEE,2HHYE,2HHYO,+1,2GURAGE HHWA,2HHWI",
   "2HHWEE,2HHWE,+1,2GURAGE MWI,3MWEE,+1,3QWI,3QWEE,3QWE,3BWI,3BWEE,3KWI,3KWEE,3KWE,3GWI,3GWEE,3GWE,3FWI",
   "3FWEE,3PWI,3PWEE,+1,0MENDE KIKAKUIvsM001 KI,3M002 KA,3M003 KU,3M065 KEE,3M095 KE,3M076 KOO,3M048 KO",
   "3M179 KUA,3M004 WI,3M005 WA,3M006 WU,3M126 WEE,3M118 WE,3M114 WOO,3M045 WO,3M194 WUI,3M143 WEI",
   "3M061 WVI,3M049 WVA,3M139 WVE,3M007 MIN,3M008nj,3M009 MUN,3M059 MEN,3M094 MON,3M154 MUAN,3M189 MUEN",
   "3M010 BI,3M011 BA,3M012 BU,3M150 BEE,3M097 BE,3M103 BOO,3M138 BO,3M013 I,3M014 A,3M015 U,3M163 EE",
   "3M100 E,3M165 OO,3M147 O,3M137 EI,3M131 IN,3M135 IN,3M195 AN,3M178 EN,3M019 SI,3M020 SA,3M021 SU",
   "3M162 SEE,3M116 SE,3M136 SOO,3M079 SO,3M196 SIA,3M025 LI,3M026 LA,3M027 LU,3M084 LEE,3M073 LE",
   "3M054 LOO,3M153 LO,3M110mxLE,3M016 DI,3M017 DA,3M018 DU,3M089 DEE,3M180 DOO,3M181 DO,3M022 TI",
   "3M023 TA,3M024 TU,3M091 TEE,3M055 TE,3M104 TOO,3M069 TO,3M028 JI,3M029 JA,3M030 JU,3M157 JEE",
   "3M113 JE,3M160 JOO,3M063 JO,3M175mxJO,3M031 YI,3M032 YA,3M033 YU,3M109 YEE,3M080 YE,3M141 YOO",
   "3M121 YO,3M034 FI,3M035 FA,3M036 FU,3M078 FEE,3M075 FE,3M133 FOO,3M088 FO,3M197 FUA,3M101 FAN",
   "3M037 NIN,3M038 NAN,3M039pg,3M117 NEN,3M169 NON,3M176 HI,3M041 HA,3M186 HU,3M040 HEE,3M096 HE",
   "3M042 HOO,3M140 HO,3M083 HEEI,3M128 HOOU,3M053 HIN,3M130 HAN,3M087 HUN,3M052 HEN,3M193 HON",
   "3M046 HUAN,3M090 NGGI,3M043 NGGA,3M082 NGGU,3M115 NGGEE,3M146 NGGE,3M156 NGGOO,3M120 NGGO",
   "3M159 NGGAA,3M127 NGGUA,3M086mxNGGE,3M106mxNGGOO,3M183mxNGGO,3M155 GI,3M111 GA,3M168 GU,3M190 GEE",
   "3M166 GUEI,3M167 GUAN,3M184 NGEN,3M057 NGON,3M177 NGUAN,3M068 PI,3M099 PA,3M050 PU,3M081 PEE",
   "3M051 PE,3M102 POO,3M066 PO,3M145 MBI,3M062 MBA,3M122 MBU,3M047 MBEE,3M188 MBEE,3M072 MBE,3M172 MBOO",
   "3M174 MBO,3M187 MBUU,3M161mxMBE,3M105mxMBOO,3M142mxMBO,3M132 KPI,3M092 KPA,3M074 KPU,3M044 KPEE",
   "3M108 KPE,3M112 KPOO,3M158 KPO,3M124 GBI,3M056 GBA,3M148 GBU,3M093 GBEE,3M107 GBE,3M071 GBOO",
   "3M070 GBO,3M171 RA,3M123 NDI,3M129 NDA,3M125 NDU,3M191 NDEE,3M119 NDE,3M067 NDOO,3M064 NDO,3M152 NJA",
   "3M192 NJU,3M149 NJEE,3M134 NJOO,3M182 VI,3M185 VA,3M151 VU,3M173 VEE,3M085 VE,3M144 VOO,3M077 VO",
   "3M164 NYIN,3M058 NYAN,3M170 NYUN,3M098 NYEN,3M060 NYON,+2,2fhpo,3ya,3wu,3hy,3hq,3uf,3tg,3gc,3oq",
   "2dqpeTEENS,4TENS,4HUNDREDS,4wt,4wfwt,4jwwt,4nu,+29,0ADLAMcpmqALIF,3DAALI,3LAAM,3MIIM,3BA,3SINNYIIYHE",
   "3PE,3BHE,3RA,3E,3FA,3I,3O,3ez,3YHE,3yz,3pg,3ld,3YA,3U,3JIIM,3de,3HA,3QAAF,3GA,3ph,3TU,3NHA,3VA,3lm",
   "3GBE,3ZAL,3KPO,3tj,1ulmqALIF,3DAALI,3LAAM,3MIIM,3BA,3SINNYIIYHE,3PE,3BHE,3RA,3E,3FA,3I,3O,3ez,3YHE",
   "3yz,3pg,3ld,3YA,3U,3JIIM,3de,3HA,3QAAF,3GA,3ph,3TU,3NHA,3VA,3lm,3GBE,3ZAL,3KPO,3tj,1ALIF LENGTHENER",
   "1yvLENGTHENER,1ignk,1iv,1dvnw,1GEMINATEdvnw,1pd,1NASALIZATIONnk,+4,1fhzv,2po,2ya,2wu,2hy,2hq,2uf,2tg",
   "2gc,2oq,+4,1kigvnk,2rknk,+311,0INDIC SIYAQpepo,3ya,3wu,3hy,3hq,3uf,3tg,3gc,3oq,3wf,3xy,3wq,3hw,3hg",
   "3ui,3ti,3gg,3os,3pojw,3yajw,3wujw,3hyjw,3hqjw,3ufjw,3tgjw,3gcjw,3oqjw,3pows,3yaws,3wuws,3hyws,3hqws",
   "3ufws,3tgws,3gcws,3oqws,3wfws,3xyws,3wqws,3hwws,3hgws,3uiws,3tiws,3ggws,3osws,3LAKH,3LAKHAN,2LAKHnk",
   "2peKAROR,3KARORAN,3PREFIXEDpo,4ya,4wu,4hy,4hq,4uf,4tg,4gc,4oq,2PLACEHOLDER,2iaporh,4iu,3wuri",
   "2RUPEEnk,2peampo,4ya,4wfws,2amLAKHnk,+4c,0OTTOMAN SIYAQpepo,3ya,3wu,3hy,3hq,3uf,3tg,3gc,3oq,3wf,3xy",
   "3wq,3hw,3hg,3ui,3ti,3gg,3os,3pojw,3yajw,3wujw,3hyjw,3hqjw,3ufjw,3tgjw,3gcjw,3oqjw,3pows,3yaws,3wuws",
   "3hyws,3hqws,3ufws,3tgws,3gcws,3oqws,3wfws,3xyws,3wqws,3hwws,3hgws,3uiws,3tiws,3ggws,3osws,2MARRATAN",
   "2ampeya,4wu,4hy,4hq,4uf,4tg,4gc,4oq,4wf,4hyjw,4ufjw,4yaws,4wfws,2iapoiu,4SIXTH,+c2,0awnmah,2br,2kz",
   "2DAL,+1,2yz,2zr,2it,2vv,2zl,2ld,2lz,2nq,2ou,2tb,2af,2he,2sp,2rd,2ro,2tr,2wd,2wj,2ln,2THAL,2em,2ZAH",
   "2ij,2fpbr,3ou,3he,3rd,+1,2kibr,3kz,+1,3jl,+2,3it,+1,3zl,3ld,3lz,3nq,3ou,3tb,3af,3he,3sp,3rd,+1,3tr",
   "3wd,3wj,3ln,+1,3em,+1,3ij,+6,2TAILEDkz,+4,3it,+1,3zl,+1,3lz,+1,3ou,3tb,3af,+1,3sp,3rd,+1,3tr,+2,3ln",
   "+1,3em,+1,3ij,+1,3fpou,+1,4rd,+1,2STRETCHEDbr,3kz,+1,3jl,+2,3it,3vv,3zl,3ld,+1,3nq,3ou,3tb,3af,3he",
   "3sp,3rd,+1,3tr,3wd,3wj,3ln,+1,3em,3ZAH,3ij,3fpbr,+1,4he,+1,2LOOPEDah,3br,3kz,3DAL,3jl,3yz,3zr,3it",
   "3vv,3zl,+1,3lz,3nq,3ou,3tb,3af,3he,3sp,3rd,3ro,3tr,3wd,3wj,3ln,3THAL,3em,3ZAH,3ij,+5,2fubr,3kz,3DAL",
   "+1,3yz,3zr,3it,3vv,3zl,+1,3lz,3nq,3ou,3tb,3af,3he,3sp,3rd,3ro,3tr,3wd,3wj,3ln,3THAL,3em,3ZAH,3ij,+34",
   "2pqnqzeitzeTATWEEL,3itzeDAL,+10e,0MAHJONG TILEgazd,2uqzd,2zazd,2owzd,2REDfy,2GREENfy,2zcfy,2poOFda",
   "2yaOFda,2wuOFda,2hyOFda,2hqOFda,2ufOFda,2tgOFda,2gcOFda,2oqOFda,2poOFbn,2yaOFbn,2wuOFbn,2hyOFbn",
   "2hqOFbn,2ufOFbn,2tgOFbn,2gcOFbn,2oqOFbn,2poOFdj,2yaOFdj,2wuOFdj,2hyOFdj,2hqOFdj,2ufOFdj,2tgOFdj",
   "2gcOFdj,2oqOFdj,2PLUM,2ORCHID,2BAMBOO,2CHRYSANTHEMUM,2SPRING,2SUMMER,2AUTUMN,2WINTER,2JOKER,2bi,+4",
   "0DOMINO TILEjtbi,2HORIZONTAL-00-00,2HORIZONTAL-00-01,2HORIZONTAL-00-02,2HORIZONTAL-00-03",
   "2HORIZONTAL-00-04,2HORIZONTAL-00-05,2HORIZONTAL-00-06,2HORIZONTAL-01-00,2HORIZONTAL-01-01",
   "2HORIZONTAL-01-02,2HORIZONTAL-01-03,2HORIZONTAL-01-04,2HORIZONTAL-01-05,2HORIZONTAL-01-06",
   "2HORIZONTAL-02-00,2HORIZONTAL-02-01,2HORIZONTAL-02-02,2HORIZONTAL-02-03,2HORIZONTAL-02-04",
   "2HORIZONTAL-02-05,2HORIZONTAL-02-06,2HORIZONTAL-03-00,2HORIZONTAL-03-01,2HORIZONTAL-03-02",
   "2HORIZONTAL-03-03,2HORIZONTAL-03-04,2HORIZONTAL-03-05,2HORIZONTAL-03-06,2HORIZONTAL-04-00",
   "2HORIZONTAL-04-01,2HORIZONTAL-04-02,2HORIZONTAL-04-03,2HORIZONTAL-04-04,2HORIZONTAL-04-05",
   "2HORIZONTAL-04-06,2HORIZONTAL-05-00,2HORIZONTAL-05-01,2HORIZONTAL-05-02,2HORIZONTAL-05-03",
   "2HORIZONTAL-05-04,2HORIZONTAL-05-05,2HORIZONTAL-05-06,2HORIZONTAL-06-00,2HORIZONTAL-06-01",
   "2HORIZONTAL-06-02,2HORIZONTAL-06-03,2HORIZONTAL-06-04,2HORIZONTAL-06-05,2HORIZONTAL-06-06,2ynbi",
   "2VERTICAL-00-00,2VERTICAL-00-01,2VERTICAL-00-02,2VERTICAL-00-03,2VERTICAL-00-04,2VERTICAL-00-05",
   "2VERTICAL-00-06,2VERTICAL-01-00,2VERTICAL-01-01,2VERTICAL-01-02,2VERTICAL-01-03,2VERTICAL-01-04",
   "2VERTICAL-01-05,2VERTICAL-01-06,2VERTICAL-02-00,2VERTICAL-02-01,2VERTICAL-02-02,2VERTICAL-02-03",
   "2VERTICAL-02-04,2VERTICAL-02-05,2VERTICAL-02-06,2VERTICAL-03-00,2VERTICAL-03-01,2VERTICAL-03-02",
   "2VERTICAL-03-03,2VERTICAL-03-04,2VERTICAL-03-05,2VERTICAL-03-06,2VERTICAL-04-00,2VERTICAL-04-01",
   "2VERTICAL-04-02,2VERTICAL-04-03,2VERTICAL-04-04,2VERTICAL-04-05,2VERTICAL-04-06,2VERTICAL-05-00",
   "2VERTICAL-05-01,2VERTICAL-05-02,2VERTICAL-05-03,2VERTICAL-05-04,2VERTICAL-05-05,2VERTICAL-05-06",
   "2VERTICAL-06-00,2VERTICAL-06-01,2VERTICAL-06-02,2VERTICAL-06-03,2VERTICAL-06-04,2VERTICAL-06-05",
   "2VERTICAL-06-06,+c,0PLAYING CARDbi,2ACE OFus,2yaOFus,2wuOFus,2hyOFus,2hqOFus,2ufOFus,2tgOFus,2gcOFus",
   "2oqOFus,2wfOFus,2JACK OFus,2ltOFus,2rjOFus,2lqOFus,+2,2ACE OFjj,2yaOFjj,2wuOFjj,2hyOFjj,2hqOFjj",
   "2ufOFjj,2tgOFjj,2gcOFjj,2oqOFjj,2wfOFjj,2JACK OFjj,2ltOFjj,2rjOFjj,2lqOFjj,2RED JOKER,+1,2ACE OFff",
   "2yaOFff,2wuOFff,2hyOFff,2hqOFff,2ufOFff,2tgOFff,2gcOFff,2oqOFff,2wfOFff,2JACK OFff,2ltOFff,2rjOFff",
   "2lqOFff,2cbJOKER,+1,2ACE OFdo,2yaOFdo,2wuOFdo,2hyOFdo,2hqOFdo,2ufOFdo,2tgOFdo,2gcOFdo,2oqOFdo",
   "2wfOFdo,2JACK OFdo,2ltOFdo,2rjOFdo,2lqOFdo,2zcJOKER,2FOOL,2TRUMP-1,2TRUMP-2,2TRUMP-3,2TRUMP-4",
   "2TRUMP-5,2TRUMP-6,2TRUMP-7,2TRUMP-8,2TRUMP-9,2TRUMP-10,2TRUMP-11,2TRUMP-12,2TRUMP-13,2TRUMP-14",
   "2TRUMP-15,2TRUMP-16,2TRUMP-17,2TRUMP-18,2TRUMP-19,2TRUMP-20,2TRUMP-21,+a,0fhzvicvd,2dr,1podr,1yadr",
   "1wudr,1hydr,1hqdr,1ufdr,1tgdr,1gcdr,1oqdr,0DINGBATdistfhzv,1ojdistfhzv,0dizvzeuk,1arba",
   "1fnuazeOVERLAIDbk,0qgmecpmqA,4B,4C,4D,4E,4F,4G,4H,4I,4J,4K,4L,4M,4N,4O,4P,4Q,4R,4S,4T,4U,4V,4W,4X,4Y",
   "4Z,0xitsBRACKETEDmecpmqS,0dikumecpmqC,5R,1CD,1WZ,0COPYLEFTvt,0uxmecpmqA,4B,4C,4D,4E,4F,4G,4H,4I,4J",
   "4K,4L,4M,4N,4O,4P,4Q,4R,4S,4T,4U,4V,4W,4X,4Y,4Z,1HV,1MV,1SD,1SS,1PPV,1WC,0ojdimecpmqA,5B,5C,5D,5E,5F",
   "5G,5H,5I,5J,5K,5L,5M,5N,5O,5P,5Q,5R,5S,5T,5U,5V,5W,5X,5Y,5Z,0rmMCua,1MDua,1MRua,0diCC,1CzeOVERLAIDbk",
   "1HUMAN FIGURE,0ojuxmecpmqA,5B,5C,5D,5E,5F,5G,5H,5I,5J,5K,5L,5M,5N,5O,5P,5Q,5R,5S,5T,5U,5V,5W,5X,5Y",
   "5Z,0edojuxmecpmqP,0ojuxIC,2PA,2SA,2AB,2WC,0uwDJ,0uxCL,1COOL,1FREE,1ID,1NEW,1NG,1OK,1SOS,1UPzegvnk",
   "1VS,1wuD,1szSCREEN,1yaK,1hyK,1gcK,1hqqrpo,1tgqrpo,1TWENTY-TWOqrya,1uiP,1pojwxyP,1meulmqD,1HC,1HDR",
   "1HI-RES,1LOSSLESS,1SHV,1UHD,1VOD,0MASK WORKvt,+38,0REGIONALkgvtmqA,4B,4C,4D,4E,4F,4G,4H,4I,4J,4K,4L",
   "4M,4N,4O,4P,4Q,4R,4S,4T,4U,4V,4W,4X,4Y,4Z,0uwjpHOKA,0uxljKOKO,2SA,+d,1CJK UNIFIED IDEOGRAPH-624B",
   "3IDEOGRAPH-5B57,3IDEOGRAPH-53CC,1ljDE,1CJK UNIFIED IDEOGRAPH-4E8C,3IDEOGRAPH-591A,3IDEOGRAPH-89E3",
   "3IDEOGRAPH-5929,3IDEOGRAPH-4EA4,3IDEOGRAPH-6620,3IDEOGRAPH-7121,3IDEOGRAPH-6599,3IDEOGRAPH-524D",
   "3IDEOGRAPH-5F8C,3IDEOGRAPH-518D,3IDEOGRAPH-65B0,3IDEOGRAPH-521D,3IDEOGRAPH-7D42,3IDEOGRAPH-751F",
   "3IDEOGRAPH-8CA9,3IDEOGRAPH-58F0,3IDEOGRAPH-5439,3IDEOGRAPH-6F14,3IDEOGRAPH-6295,3IDEOGRAPH-6355",
   "3IDEOGRAPH-4E00,3IDEOGRAPH-4E09,3IDEOGRAPH-904A,3IDEOGRAPH-5DE6,3IDEOGRAPH-4E2D,3IDEOGRAPH-53F3",
   "3IDEOGRAPH-6307,3IDEOGRAPH-8D70,3IDEOGRAPH-6253,3IDEOGRAPH-7981,3IDEOGRAPH-7A7A,3IDEOGRAPH-5408",
   "3IDEOGRAPH-6E80,3IDEOGRAPH-6709,3IDEOGRAPH-6708,3IDEOGRAPH-7533,3IDEOGRAPH-5272,3IDEOGRAPH-55B6",
   "3IDEOGRAPH-914D,+4,0xitsBRACKETED CJK UNIFIED IDEOGRAPH-672C,5IDEOGRAPH-4E09,5IDEOGRAPH-4E8C",
   "5IDEOGRAPH-5B89,5IDEOGRAPH-70B9,5IDEOGRAPH-6253,5IDEOGRAPH-76D7,5IDEOGRAPH-52DD,5IDEOGRAPH-6557,+7",
   "0diIDEOGRAPH ADVANTAGE,2ACCEPT,+e,0smvthuFU,3LU,3SHOU,3XI,3SHUANGXI,3CAI,+9a,0CYCLONE,0FOGGY",
   "0dnUMBRELLA,0NIGHTzeSTARS,0SUNRISEpvMOUNTAINS,1,0CITYSCAPE AT DUSK,0SUNSETpvBUILDINGS,0RAINBOW",
   "0BRIDGE AT NIGHT,0yxyy,0VOLCANO,0MILKY WAY,0fzGLOBE EUROPE-AFRICA,2AMERICAS,2ASIA-AUSTRALIA",
   "0GLOBEzeMERIDIANS,0NEWnyvt,0WAXINGeanyvt,0horhnyvt,0WAXING GIBBOUSnyvt,0icnyvt,0WANING GIBBOUSnyvt",
   "0LASTrhnyvt,0WANINGeanyvt,0eany,0NEWnyzeha,0horhnyzeha,0LASTrhnyzeha,0icnyzeha,0SUNzeha,0GLOWINGvb",
   "0SHOOTINGvb,0THERMOMETER,0cbDROPLET,0zcSUN,2zeulCLOUD,2BEHIND CLOUD,4zeRAIN,0CLOUDzeRAIN,2SNOW",
   "2LIGHTNING,2TORNADO,0FOG,0zdBLOWINGha,0HOT DOG,0TACO,0BURRITO,0CHESTNUT,0SEEDLING,0EVERGREEN TREE",
   "0DECIDUOUS TREE,0PALM TREE,0CACTUS,0HOT PEPPER,0TULIP,0CHERRY BLOSSOM,0ROSE,0HIBISCUS,0SUNFLOWER",
   "0BLOSSOM,0EAR OF MAIZE,2RICE,0HERB,0hymfCLOVER,0MAPLEmf,0FALLENmf,0mfFLUTTERING INzd,0MUSHROOM",
   "0TOMATO,0AUBERGINE,0GRAPES,0MELON,0WATERMELON,0TANGERINE,0LEMON,0BANANA,0PINEAPPLE,0RED APPLE",
   "0GREEN APPLE,0PEAR,0PEACH,0CHERRIES,0STRAWBERRY,0HAMBURGER,0SLICE OF PIZZA,0MEAT ON BONE,0POULTRYmm",
   "0RICE CRACKER,1bm,0COOKED RICE,0CURRYapRICE,0STEAMING BOWL,0SPAGHETTI,0BREAD,0FRENCH FRIES",
   "0ROASTED SWEET POTATO,0DANGO,0ODEN,0SUSHI,0FRIED SHRIMP,0FISH CAKEzeSWIRL DESIGN,0unICE CREAM",
   "0SHAVED ICE,0ICE CREAM,0DOUGHNUT,0COOKIE,0CHOCOLATEbo,0CANDY,0LOLLIPOP,0CUSTARD,0HONEY POT",
   "0SHORTCAKE,0BENTOcg,0POT OF FOOD,0COOKING,0FORKapKNIFE,0TEACUP WITHOUT HANDLE,0SAKE BOTTLEapCUP",
   "0WINE GLASS,0COCKTAIL GLASS,0TROPICAL DRINK,0BEER MUG,0CLINKING BEER MUGS,0BABY BOTTLE",
   "0FORKapKNIFEzePLATE,0BOTTLEzePOPPING CORK,0POPCORN,0RIBBON,0WRAPPED PRESENT,0BIRTHDAY CAKE",
   "0JACK-O-LANTERN,0CHRISTMAS TREE,0FATHER CHRISTMAS,0FIREWORKS,0FIREWORK SPARKLER,0BALLOON",
   "0PARTY POPPER,0CONFETTIbm,0TANABATA TREE,0edFLAGS,0PINE DECORATION,0kyDOLLS,0CARP STREAMER,0zdCHIME",
   "0nyVIEWING CEREMONY,0SCHOOL SATCHEL,0GRADUATION CAP,0jizeTIP ONwimg,0BOUQUET OF FLOWERS",
   "0MILITARY MEDAL,0REMINDER RIBBON,0ohKEYBOARDzeJACKS,0STUDIO MICROPHONE,0LEVEL SLIDER,0CONTROL KNOBS",
   "0BEAMED ASCENDINGohNOTES,1DESCENDINGohNOTES,0FILM FRAMES,0ADMISSION TICKETS,0CAROUSELjv",
   "0FERRIS WHEEL,0ROLLER COASTER,0FISHING POLEapFISH,0MICROPHONE,0MOVIE CAMERA,0CINEMA,0HEADPHONE",
   "0ARTIST PALETTE,0xhHAT,0CIRCUS TENT,0TICKET,0CLAPPER BOARD,0PERFORMING ARTS,0VIDEO GAME,0DIRECT HIT",
   "0SLOT MACHINE,0BILLIARDS,0GAME DIE,0BOWLING,0FLOWER PLAYING CARDS,0ohpa,0oeohNOTES,0SAXOPHONE",
   "0GUITAR,0ohKEYBOARD,0TRUMPET,0VIOLIN,0ohSCORE,0RUNNING SHIRTzeSASH,0TENNIS RACQUETapbm",
   "0SKIapSKI BOOT,0BASKETBALLapHOOP,0CHEQUEREDhr,0SNOWBOARDER,0RUNNER,0SURFER,0SPORTS MEDAL,0TROPHY",
   "0jvRACING,0AMERICAN FOOTBALL,0RUGBY FOOTBALL,0SWIMMER,0WEIGHT LIFTER,0GOLFER,0RACING MOTORCYCLE,1CAR",
   "0CRICKET BATapbm,0VOLLEYBALL,0FIELD HOCKEY STICKapbm,0ICE HOCKEY STICKapPUCK",
   "0TABLE TENNIS PADDLEapbm,0SNOW CAPPEDnz,0CAMPING,0BEACHzeUMBRELLA,0BUILDING CONSTRUCTION",
   "0HOUSE BUILDINGS,0CITYSCAPE,0DERELICT HOUSE BUILDING,0CLASSICAL BUILDING,0DESERT,1ISLAND",
   "0NATIONAL PARK,0STADIUM,0HOUSE BUILDING,1zeGARDEN,0OFFICE BUILDING,0kyPOST OFFICE",
   "0EUROPEAN POST OFFICE,0HOSPITAL,0BANK,0AUTOMATED TELLER MACHINE,0HOTEL,0LOVE HOTEL",
   "0CONVENIENCE STORE,0SCHOOL,0DEPARTMENT STORE,0FACTORY,0IZAKAYA LANTERN,0kyCASTLE,0EUROPEAN CASTLE",
   "0zcPENNANT,0cbPENNANT,0WAVINGzchr,1cbhr,0ROSETTE,0cbROSETTE,0LABEL,0BADMINTON RACQUETapSHUTTLECOCK",
   "0BOWapba,0AMPHORA,0EMOJInwFITZPATRICK TYPE-1-2,3TYPE-3,3TYPE-4,3TYPE-5,3TYPE-6,0RAT,0MOUSE,0OX",
   "0yxBUFFALO,0COW,0TIGER,0LEOPARD,0RABBIT,0CAT,0fy,0CROCODILE,0WHALE,0SNAIL,0SNAKE,0jv,0RAM,0GOAT",
   "0SHEEP,0MONKEY,0ROOSTER,0CHICKEN,0DOG,0PIG,0BOAR,0ELEPHANT,0OCTOPUS,0SPIRALts,0BUG,0ANT,0HONEYBEE",
   "0LADY BEETLE,0FISH,0TROPICAL FISH,0BLOWFISH,0TURTLE,0HATCHING CHICK,0BABY CHICK",
   "0FRONT-FACING BABY CHICK,0BIRD,0PENGUIN,0KOALA,0POODLE,0DROMEDARY CAMEL,0BACTRIAN CAMEL,0DOLPHIN",
   "0MOUSEha,0COWha,0TIGERha,0RABBITha,0CATha,0fyha,0SPOUTING WHALE,0jvha,0MONKEYha,0DOGha,0PIGha",
   "0FROGha,0HAMSTERha,0WOLFha,0BEARha,0PANDAha,0PIG NOSE,0PAW PRINTS,0CHIPMUNK,0gz,0EYE,0EAR,0NOSE,0oa",
   "0xf,0zcUPqtbjkf,1fvqtbjkf,1mgqtbjkf,1rzqtbjkf,0FISTEDiwua,0WAVINGiwua,0OKiwua,0THUMBS UPua,1fvua",
   "0CLAPPINGjeua,0ppjeua,0CROWN,0WOMANS HAT,0EYEGLASSES,0NECKTIE,0T-SHIRT,0JEANS,0DRESS,0KIMONO,0BIKINI",
   "0WOMANS CLOTHES,0PURSE,0HANDBAG,0POUCH,0MANS SHOE,0ATHLETIC SHOE,0HIGH-HEELED SHOE,0WOMANS SANDAL",
   "1BOOTS,0FOOTPRINTS,0BUST IN SILHOUETTE,0BUSTS IN SILHOUETTE,0BOY,0GIRL,0nj,0WOMAN,0FAMILY",
   "0njapWOMANjrje,0yaMENjrje,1WOMENjrje,0POLICE OFFICER,0WOMANzeBUNNY EARS,0BRIDEzeVEIL,0qkzeBLOND HAIR",
   "0njzeGUA PI MAO,2TURBAN,0OLDERnj,1WOMAN,0BABY,0CONSTRUCTION WORKER,0PRINCESS,0kyOGRE,1GOBLIN,0GHOST",
   "0BABY ANGEL,0EXTRATERRESTRIAL ALIEN,0ALIEN MONSTER,0IMP,0SKULL,0INFORMATION DESKqk,0GUARDSMAN",
   "0DANCER,0LIPSTICK,0NAIL POLISH,0haMASSAGE,0HAIRCUT,0BARBER POLE,0SYRINGE,0PILL,0KISSnk,0LOVEmq,0sf",
   "0GEM STONE,0KISS,0BOUQUET,0COUPLEzeji,0WEDDING,0BEATINGji,0BROKENji,0yajj,0SPARKLINGji,0GROWINGji",
   "0jizeba,0BLUEji,0GREENji,0YELLOWji,0PURPLEji,0jizeRIBBON,0REVOLVINGjj,0jiDECORATION,0feSHAPEzeAfokj",
   "0ELECTRICmsBULB,0ANGERvt,0BOMB,0SLEEPINGvt,0COLLISIONvt,0SPLASHING SWEATvt,0DROPLET,0ervt",
   "0PILE OF POO,0FLEXED BICEPS,0DIZZYvt,0utBALLOON,0THOUGHT BALLOON,0zcFLOWER,0jwPOINTSvt,0MONEY BAG",
   "0CURRENCY EXCHANGE,0jkfnua,0CREDIT CARD,0BANKNOTEzeYENua,2fnua,2EUROua,2POUNDua,0MONEYzeWINGS",
   "0CHARTzeyjTRENDapYENua,0SEAT,0PERSONAL COMPUTER,0BRIEFCASE,0MINIDISC,0FLOPPY DISK,0OPTICAL DISC,0DVD",
   "0FILEht,0ppFILEht,0PAGEzeeh,1FACING UP,0CALENDAR,0TEAR-OFF CALENDAR,0CARDkf,0CHARTzeyjTREND,2fxTREND",
   "0boCHART,0CLIPBOARD,0PUSHPIN,0slPUSHPIN,0PAPERCLIP,0veRULER,0xmRULER,0BOOKMARK TABS,0LEDGER",
   "0NOTEBOOK,1zeDECORATIVE COVER,0dnBOOK,0ppBOOK,0GREEN BOOK,0BLUE BOOK,0ORANGE BOOK,0BOOKS,0NAME BADGE",
   "0SCROLL,0MEMO,0weRECEIVER,0PAGER,0FAX MACHINE,0SATELLITE ANTENNA,0PUBLIC ADDRESS LOUDSPEAKER",
   "0CHEERING MEGAPHONE,0OUTBOX TRAY,0INBOX TRAY,0PACKAGE,0E-MAILvt,0INCOMINGgm,0gmzefxbaac",
   "0dnMAILBOXzeLOWEREDhr,3rmhr,0ppMAILBOXzermhr,3LOWEREDhr,0POSTBOX,0POSTALju,0NEWSPAPER,0MOBILE PHONE",
   "2zesebaATmg,0VIBRATION MODE,0MOBILE PHONE OFF,0NO MOBILE PHONES,0ANTENNAzeBARS,0CAMERA,1zeFLASH",
   "0VIDEO CAMERA,0TELEVISION,0RADIO,0VIDEOCASSETTE,0FILM PROJECTOR,0PORTABLE STEREO,0PRAYER BEADS",
   "0TWISTEDsebc,0dmseapmlppdhbc,7zedipopx,1fxapyjppdhbc,0arfxapyjppdhbc,0naBRIGHTNESSvt,0jnBRIGHTNESSvt",
   "0SPEAKERzecmvf,1,1zepoupyy,2wuupWAVES,0BATTERY,0ELECTRIC PLUG,0miMAGNIFYING GLASS",
   "0sbMAGNIFYING GLASS,0LOCKzeINK PEN,0dnLOCKzeKEY,0KEY,0LOCK,0ppLOCK,0BELL,1zecmvf,0BOOKMARK,0LINKvt",
   "0RADIO BUTTON,0bizemlbaac,0glzemlbaac,0ONzegvnkzemgrzbaac,0SOONzesebaac,0xhzeyjbaac,0NOpoycgdvt",
   "0KEYCAPwf,0INPUTvthumecpLETTERS,4ulLETTERS,3NUMBERS,3SYMBOLS,3meLETTERS,0hn,0ELECTRIC TORCH,0WRENCH",
   "0HAMMER,0NUTapBOLT,0HOCHO,0PISTOL,0MICROSCOPE,0TELESCOPE,0CRYSTALbm,0ufqsvbzensfo,0kyvthuBEGINNER",
   "0TRIDENT EMBLEM,0cbuwBUTTON,0zcuwBUTTON,0mcREDdh,1BLUEdh,1ORANGEfe,1BLUEfe,0ulORANGEfe,1BLUEfe",
   "0yfREDxk,0fwREDxk,0yfulREDxk,0fwulREDxk,0nbrztmzcdh,0yhrztmzcdh,0diecPOMMEE,0ecPOMMEEzeHALF-CIRCLEbs",
   "2,0ozmgtczewufq,1rztczewufq,0vthuMARKS CHAPTER,0zcmeec,0jkmeec,0CELTICec,0OMvt,0DOVE OF PEACE,0KAABA",
   "0MOSQUE,0SYNAGOGUE,0MENORAHzeoqBRANCHES,0BOWL OF HYGIEIA,0CLOCKhapopj,2yapj,2wupj,2hypj,2hqpj,2ufpj",
   "2tgpj,2gcpj,2oqpj,2wfpj,2gjpj,2xxpj,2ONE-THIRTY,2TWO-THIRTY,2THREE-THIRTY,2FOUR-THIRTY,2FIVE-THIRTY",
   "2SIX-THIRTY,2SEVEN-THIRTY,2EIGHT-THIRTY,2NINE-THIRTY,2TEN-THIRTY,2ELEVEN-THIRTY,2TWELVE-THIRTY",
   "0rzSPEAKER,2zepoupyy,3wuupWAVES,0BULLHORN,1zeupWAVES,0RINGING BELL,0BOOK,0CANDLE,0MANTELPIECE CLOCK",
   "0cbSKULLapCROSSBONES,0NO PIRACY,0HOLE,0njIN BUSINESS SUIT LEVITATING,0SLEUTH OR SPY,0DARK SUNGLASSES",
   "0SPIDER,1WEB,0JOYSTICK,0njDANCING,0mgiwweRECEIVER,0weRECEIVERzePAGE,0rziwweRECEIVER,0zcTOUCHTONEwe",
   "0cbTOUCHTONEwe,0weONxhOF MODEM,0CLAMSHELL MOBILE PHONE,0biOFgm,0STAMPEDgm,0gmzeLIGHTNING,0FLYINGgm",
   "0PENpvSTAMPEDgm,0LINKED PAPERCLIPS,0cbPUSHPIN,0nbmgPENCIL,2BALLPOINT PEN,2FOUNTAIN PEN,2PAINTBRUSH",
   "2CRAYON,0mgWRITINGiw,0xuOKiwua,0rmiwzehmSPLAYED,0rtrmiwzehmSPLAYED,1THUMBS UPua,2fvua,1VICTORYiw",
   "1iwzenshkgw,0rmiwzePARTbxnsapsfhm,0zcfvqtmgiwkf,0tyzcmgqtkf,2rzqtkf,1cbmgqtkf,2rzqtkf,0cbmgqtbjkf",
   "1rzqtbjkf,0tyzcUPqtkf,2fvqtkf,1cbUPqtkf,2fvqtkf,0cbUPqtbjkf,1fvqtbjkf,1ji,0DESKTOP COMPUTER",
   "0KEYBOARDapMOUSE,0wuNETWORKED COMPUTERS,0PRINTER,0POCKET CALCULATOR,0cbHARDtsFLOPPY DISK",
   "0zcHARDtsFLOPPY DISK,0untsFLOPPY DISK,0TAPE CARTRIDGE,0WIRED KEYBOARD,0poBUTTON MOUSE",
   "0yaBUTTON MOUSE,0wuBUTTON MOUSE,0TRACKBALL,0plPERSONAL COMPUTER,0HARD DISK,0SCREEN,0PRINTER ICON",
   "0FAX ICON,0OPTICAL DISC ICON,0DOCUMENTzeTEXT,3apPICTURE,2PICTURE,0FRAMEzePICTURE,2TILES,2AN X,0cbht",
   "0ht,0ppht,0CARDkfDIVIDERS,1FILEcg,0FILE CABINET,0EMPTYpa,2PAGE,2PAD,0pa,1PAGE,1PAD,0EMPTY DOCUMENT",
   "1PAGE,1PAGES,0DOCUMENT,0PAGE,0PAGES,0WASTEBASKET,0SPIRALpaPAD,1CALENDAR PAD,0DESKTOP WINDOW",
   "0MINIMIZE,0MAXIMIZE,0OVERLAP,0dmrzapmgtcbc,0cmX,0INCREASE FONT SIZEvt,0DECREASE FONT SIZEvt",
   "0COMPRESSION,0plKEY,0ROLLED-UP NEWSPAPER,0PAGEzediTEXT,0STOCK CHART,0DAGGER KNIFE,0LIPS",
   "0SPEAKINGjhIN SILHOUETTE,0wuRAYSac,2bs,2mg,2rz,0mgutcj,0rzutcj,0yautBUBBLES,0wuutBUBBLES",
   "0mgTHOUGHTcj,0rzTHOUGHTcj,0mgANGERcj,0rzANGERcj,0MOODcj,0LIGHTNING MOODcj,2,0BALLOTcgzeBALLOT,1sxX",
   "1cgzesxX,1cesxX,1cgzecesxX,0msdcnk,0BALLOTcgzecedc,0WORLD MAP,0MOUNT FUJI,0TOKYO TOWER",
   "0STATUE OF LIBERTY,0SILHOUETTE OF JAPAN,0MOYAI,0GRINNINGha,2zeumgz,0hazeTEARS OF JOY,0umhazeppoa",
   "5apumgz,6COLD SWEAT,6TIGHTLY-CLOSEDgz,3HALO,3HORNS,0WINKINGha,0umhazeumgz",
   "0haSAVOURING DELICIOUS FOOD,0RELIEVEDha,0umhazeHEART-SHAPEDgz,3SUNGLASSES,0SMIRKINGha,0omha",
   "0EXPRESSIONLESSha,0UNAMUSEDha,0hazeCOLD SWEAT,0PENSIVEha,0CONFUSEDha,0CONFOUNDEDha,0KISSINGha",
   "0haTHROWING A KISS,0KISSINGhazeumgz,3dngz,0hazeSTUCK-OUTxf,4apWINKING EYE,5TIGHTLY-CLOSEDgz",
   "0DISAPPOINTEDha,0WORRIEDha,0ANGRYha,0POUTINGha,0CRYINGha,0PERSEVERINGha,0hazeLOOK OF TRIUMPH",
   "0DISAPPOINTED BUT RELIEVEDha,0FROWNINGhazeppoa,0ANGUISHEDha,0FEARFULha,0WEARYha,0SLEEPYha,0TIREDha",
   "0GRIMACINGha,0LOUDLY CRYINGha,0hazeppoa,0HUSHEDha,0hazeppoaapCOLD SWEAT,1SCREAMING IN FEAR",
   "0ASTONISHEDha,0FLUSHEDha,0SLEEPINGha,0DIZZYha,0haWITHOUToa,1zeMEDICAL MASK,0GRINNING CAThazeumgz",
   "0CAThazeTEARS OF JOY,0umCAThazeppoa,4HEART-SHAPEDgz,0CAThazeWRY SMILE,0KISSING CAThazedngz",
   "0POUTING CATha,0CRYING CATha,0WEARY CATha,0SLIGHTLY FROWNINGha,1umha,0UPSIDE-DOWNha,0hazeROLLINGgz",
   "2NO GOOD GESTURE,2OK GESTURE,0qkBOWING DEEPLY,0SEE-NO-EVIL MONKEY,0HEAR-NO-EVIL MONKEY",
   "0SPEAK-NO-EVIL MONKEY,0HAPPYqkRAISINGpoiw,0qkRAISING BOTHjeIN CELEBRATION,1FROWNING,1zePOUTINGha",
   "2FOLDEDje,0owzaqtmf,0uqzaqtmf,0owgaqtmf,0uqgaqtmf,0xuowzaqtmf,1uqzaqtmf,1owgaqtmf,1uqgaqtmf",
   "0owzaqtVINEmf,0uqzaqtVINEmf,0owgaqtVINEmf,0uqgaqtVINEmf,0jkowzaqtVINEmf,1uqzaqtVINEmf,1owgaqtVINEmf",
   "1uqgaqtVINEmf,0owzaqtBUD,0uqzaqtBUD,0owgaqtBUD,0uqgaqtBUD,0jkowzaqtBUD,1uqzaqtBUD,1owgaqtBUD",
   "1uqgaqtBUD,0HOLLOW QUILTuwpt,4INcbuw,0SOLID QUILTuwpt,4INcbuw,0mlROCKET,0yjROCKET,0seROCKET",
   "0fxROCKET,0sxmrETpt,0jksxmrETpt,0mrppETpt,0jkmrppETpt,1aopt,0SWASHaopt,0stjkfsxudrrlnkpt,3drrlnkpt",
   "2nafsdrrlnkpt,0jkkmpt,0stkmpt,0jkstkmpt,0ypjkuo,2rsuo,0CHECKER BOARD,0rsCHECKER BOARD,0ROCKET",
   "0HELICOPTER,0STEAM LOCOMOTIVE,0RAILWAY CAR,0HIGH-SPEED TRAIN,2zeckNOSE,0TRAIN,0METRO,0msRAIL",
   "0STATION,0TRAM,1CAR,0BUS,0ONCOMING BUS,0TROLLEYBUS,0BUSvd,0MINIBUS,0AMBULANCE,0hnENGINE,0POLICE CAR",
   "0ONCOMING POLICE CAR,0TAXI,0ONCOMING TAXI,0AUTOMOBILE,0ONCOMING AUTOMOBILE,0RECREATIONAL VEHICLE",
   "0DELIVERY TRUCK,0ARTICULATED LORRY,0TRACTOR,0MONORAIL,0nzRAILWAY,0SUSPENSION RAILWAY,0nzCABLEWAY",
   "0AERIAL TRAMWAY,0SHIP,0ROWBOAT,0SPEEDBOAT,0jtTRAFFICms,0ynTRAFFICms,0CONSTRUCTIONua",
   "0POLICE CARS REVOLVINGms,0xmhrON POST,0DOOR,0NO ENTRYua,0SMOKINGvt,0NO SMOKINGvt",
   "0PUT LITTER IN ITS PLACEvt,0DOoxLITTERvt,0POTABLEyxvt,0NON-POTABLEyxvt,0BICYCLE,0NO BICYCLES",
   "0BICYCLIST,0nzBICYCLIST,0PEDESTRIAN,0NO PEDESTRIANS,0CHILDRENef,0MENSvt,0WOMENSvt,0RESTROOM,0BABYvt",
   "0TOILET,0yxCLOSET,0SHOWER,0BATH,0BATHTUB,0PASSPORT CONTROL,0CUSTOMS,0BAGGAGE CLAIM,0mgLUGGAGE",
   "0xkzesmCORNERS,0PROHIBITEDua,0diINFORMATION SOURCE,0BOYSvt,0GIRLSvt,0COUCHapLAMP",
   "0SLEEPING ACCOMMODATION,0SHOPPING BAGS,0BELLHOP BELL,0BED,0PLACE OF WORSHIP,0OCTAGONALua",
   "0SHOPPING TROLLEY,0STUPA,0PAGODA,0HINDU TEMPLE,0HUT,0ELEVATOR,+5,0PLAYGROUND SLIDE,0WHEEL,0sfBUOY",
   "0HAMMERapWRENCH,0SHIELD,0OIL DRUM,0MOTORWAY,0RAILWAY TRACK,0MOTOR BOAT,0yfMILITARYag,1ag,1ulag,0ulag",
   "0NORTHEAST-POINTINGag,0agDEPARTURE,1ARRIVING,+3,0SATELLITE,0ONCOMINGhnENGINE,0DIESEL LOCOMOTIVE",
   "0PASSENGER SHIP,0SCOOTER,0MOTOR SCOOTER,0CANOE,0SLED,0FLYING SAUCER,0SKATEBOARD,0AUTO RICKSHAW",
   "0PICKUP TRUCK,0ROLLER SKATE,+3,0ALCHEMICALvthuQUINTESSENCE,3AIR,3hn,3fz,3yx,3AQUAFORTIS,3AQUA REGIA",
   "4REGIA-2,4VITAE,4VITAE-2,3VINEGAR,3VINEGAR-2,3VINEGAR-3,3SULFUR,3PHILOSOPHERS SULFUR,3cbSULFUR",
   "3MERCURYvi,4SUBLIMATE-2,4SUBLIMATE-3,3CINNABAR,3SALT,3NITRE,3VITRIOL,3VITRIOL-2,3ROCK SALT,4SALT-2",
   "3GOLD,3SILVER,3IRON ORE,4ORE-2,3CROCUS OF IRON,3REGULUS OF IRON,3COPPER ORE,3IRON-COPPER ORE",
   "3viOF COPPER,3CROCUS OF COPPER,5COPPER-2,3COPPER ANTIMONIATE,3SALT OF COPPER ANTIMONIATE",
   "3viOF SALT OF COPPER,3VERDIGRIS,3TIN ORE,3LEAD ORE,3asORE,3viOFas,3SALT OFas,3viOF SALT OFas",
   "3VINEGAR OFas,3REGULUS OFas,5ANTIMONY-2,4,3REGULUS-2,3REGULUS-3,3REGULUS-4,3ALKALI,3ALKALI-2",
   "3MARCASITE,3SAL-AMMONIAC,3ARSENIC,3REALGAR,3REALGAR-2,3AURIPIGMENT,3BISMUTH ORE,3TARTAR,3TARTAR-2",
   "3QUICK LIME,3BORAX,3BORAX-2,3BORAX-3,3ALUM,3OIL,3SPIRIT,3TINCTURE,3GUM,3WAX,3POWDER,3CALX,3TUTTY",
   "3CAPUT MORTUUM,3SCEPTER OF JOVE,3CADUCEUS,3TRIDENT,3STARRED TRIDENT,3LODESTONE,3SOAP,3URINE,3jvDUNG",
   "3ASHES,3POT ASHES,3BRICK,3POWDERED BRICK,3AMALGAM,3STRATUM SUPER STRATUM,5STRATUM-2,3SUBLIMATION",
   "3PRECIPITATE,3DISTILL,3DISSOLVE,3DISSOLVE-2,3PURIFY,3PUTREFACTION,3CRUCIBLE,3CRUCIBLE-2,3CRUCIBLE-3",
   "3CRUCIBLE-4,3CRUCIBLE-5,3ALEMBIC,3BATH OF MARY,5VAPOURS,3RETORT,3HOUR,3NIGHT,3DAY-NIGHT,3MONTH",
   "3iuDRAM,4OUNCE,+c,0cbmiISOSCELESrzxk,1yfISOSCELESrzxk,1sbISOSCELESrzxk,1fwISOSCELESrzxk",
   "1SLIGHTLYuldh,0npcezcdh,0cezcdh,0jkzcdh,0ypjkzcdh,0gyjkzcdh,0zcdhdwcbuldh,0slTARGET,0cbTINYuw",
   "1SLIGHTLYuluw,0mszcuw,0npzcuw,0cezcuw,0jkzcuw,0ypjkzcuw,0gyjkzcuw,0zcuwdwcbypuluw,4npuw,0uwTARGET",
   "0cbTINYfe,1ypulfe,1npulfe,0zcfedwcbypulfe,4npfe,0feTARGET,0cbTINYnc,1ypulnc,1npulnc,0zcncdwcbulnc",
   "0THINiqec,0msiqec,0npiqec,0ceiqec,0ypceiqec,1jkiqec,0gyjkiqec,0THINsr,0mssr,0npsr,0cesr,0jksr",
   "0ypjksr,0gyjksr,0mshquube,0nphquube,0cehquube,0jkhquube,0ypjkhquube,0gyjkhquube,0msufuube,0npufuube",
   "0ceufuube,0jkufuube,0ypjkufuube,0gyjkufuube,0msgcuube,0npgcuube,0cegcuube,0jkgcuube,0ypjkgcuube",
   "0mswuqscbvb,0npwuqscbvb,0wuqscbvb,0npwuqsqovb,0mshyqscbvb,0nphyqscbvb,0hyqscbvb,0nphyqsqovb",
   "0rsmshyqsqovb,0mshqqscbvb,0jkhqqscbvb,0npufqscbvb,0jkufqscbvb,0ufqsqovb,0npgcqscbvb,0jkgcqscbvb",
   "0ypjkgcqscbvb,0jkgcqsqovb,0msxxqscbvb,0jkxxqscbvb,3qovb,0dixk,0ojdixk,0diuw,0ojdiuw,+7,0mcORANGEdh",
   "1YELLOWdh,1GREENdh,1PURPLEdh,1BROWNdh,1REDuw,1BLUEuw,1ORANGEuw,1YELLOWuw,1GREENuw,1PURPLEuw,1BROWNuw",
   "+4,0jkgpua,+f,0mlbazeulxkbb,0yjbazeulxkbb,0sebazeulxkbb,0fxbazeulxkbb,0mlbazenpxkbb,0yjbazenpxkbb",
   "0sebazenpxkbb,0fxbazenpxkbb,0mlbazemcxkbb,0yjbazemcxkbb,0sebazemcxkbb,0fxbazemcxkbb,+4,0mlbazeulgrbb",
   "0yjbazeulgrbb,0sebazeulgrbb,0fxbazeulgrbb,0mlbazegrbb,0yjbazegrbb,0sebazegrbb,0fxbazegrbb",
   "0jkmlbazegrbb,1yjbazegrbb,1sebazegrbb,1fxbazegrbb,1mlbazemcgrbb,1yjbazemcgrbb,1sebazemcgrbb",
   "1fxbazemcgrbb,0mlxlbazeNARROWtn,0yjxlbazeNARROWtn,0sexlbazeNARROWtn,0fxxlbazeNARROWtn,0mlxlbazenptn",
   "0yjxlbazenptn,0sexlbazenptn,0fxxlbazenptn,0mlxlbazecetn,0yjxlbazecetn,0sexlbazecetn,0fxxlbazecetn",
   "0mlxlbazejktn,0yjxlbazejktn,0sexlbazejktn,0fxxlbazejktn,0mlxlbazeypjktn,0yjxlbazeypjktn",
   "0sexlbazeypjktn,0fxxlbazeypjktn,0mlhlba,0yjhlba,0sehlba,0fxhlba,0mluxba,0yjuxba,0seuxba,0fxuxba",
   "0mldtba,0yjdtba,0sedtba,0fxdtba,0mljkdtba,0yjjkdtba,0sejkdtba,0fxjkdtba,0mljkba,0yjjkba,0sejkba",
   "0fxjkba,+8,0mlstba,0yjstba,0sestba,0fxstba,0owzastba,1gastba,0uqgastba,1zastba,0mgrzstba,0UPfvstba",
   "+6,0WIDE-HEADEDmlmsbpba,1yjmsbpba,1semsbpba,1fxmsbpba,1owzamsbpba,2gamsbpba,1uqgamsbpba,2zamsbpba",
   "1mlbpba,1yjbpba,1sebpba,1fxbpba,1owzabpba,2gabpba,1uqgabpba,2zabpba,1mlnpbpba,1yjnpbpba,1senpbpba",
   "1fxnpbpba,1owzanpbpba,2ganpbpba,1uqganpbpba,2zanpbpba,1mljkbpba,1yjjkbpba,1sejkbpba,1fxjkbpba",
   "1owzajkbpba,2gajkbpba,1uqgajkbpba,2zajkbpba,1mlypjkbpba,1yjypjkbpba,1seypjkbpba,1fxypjkbpba",
   "1owzaypjkbpba,2gaypjkbpba,1uqgaypjkbpba,2zaypjkbpba,+8,0mlxkbb,0yjxkbb,0sexkbb,0fxxkbb,0mlzcbazfxkbb",
   "0yjzcbazfxkbb,0sezcbazfxkbb,0fxzcbazfxkbb,0mlbazeozvw,0yjbazeozvw,0sebazeozvw,0fxbazeozvw",
   "0jkbatnWIDTHpo,4yawo,4poiu,5wn,0mlBOTTOM-SHADEDzcba,0secfSHADEDzcba,0mlxhSHADEDzcba,0sexhSHADEDzcba",
   "0mlLEFT-SHADEDzcba,0seRIGHT-SHADEDzcba,0mlRIGHT-SHADEDzcba,0seLEFT-SHADEDzcba,0mlBACK-TILTEDtmzcba",
   "0seBACK-TILTEDtmzcba,0mlFRONT-TILTEDtmzcba,0seFRONT-TILTEDtmzcba,0zcbatnWIDTHpo,4yawo,+2",
   "0baqtyjTHENowza,2seTHEN CURVINGuqza,+4e,0diecFORMEEzehyfq,4yafq,3,0mgiudhzehyfq,4wufq,4yafq,4fo,3",
   "0DOWNWARD FACINGjs,2ozjs,2jszefo,2ozjszefo,0PINCHEDhm,0zcji,0BROWNji,0PINCHINGiw,0ZIPPER-MOUTHha",
   "0MONEY-MOUTHha,0hazeTHERMOMETER,0NERDha,0THINKINGha,0hazeHEAD-BANDAGE,0ROBOTha,0HUGGINGha",
   "0uaOFwiHORNS,0CALL MEiw,0rmbiOFiw,0mhFIST,0saFIST,0HANDSHAKE,0iwzekfapnshmed,0I LOVE YOUiwua",
   "0hazeCOWBOY HAT,0CLOWNha,0NAUSEATEDha,0ROLLING ONwihsLAUGHING,0DROOLINGha,0LYINGha,0haPALM",
   "0SNEEZINGha,0hazepoEYEBROWrm,0GRINNINGhazevbgz,3pomcappoulEYE,0hazehkCOVERINGdnLIPS",
   "0SERIOUShazeSYMBOLS COVERINGoa,0umhazeumgzapiwCOVERINGoa,0hazeppoaVOMITING,0SHOCKEDhazeEXPLODINGjh",
   "0PREGNANT WOMAN,0BREAST-FEEDING,0PALMS UP TOGETHER,0SELFIE,0PRINCE,0njIN TUXEDO,0MOTHER CHRISTMAS",
   "0SHRUG,0qkDOING CARTWHEEL,0JUGGLING,0FENCER,0MODERN PENTATHLON,0WRESTLERS,0yxPOLO,0HANDBALL",
   "0DIVING MASK,0WILTED FLOWER,0DRUMzeDRUMSTICKS,0CLINKING GLASSES,0TUMBLER GLASS,0SPOON,0GOAL NET",
   "0RIFLE,0hoPLACE MEDAL,0szPLACE MEDAL,0wnPLACE MEDAL,0BOXING GLOVE,0MARTIAL ARTS UNIFORM",
   "0CURLING STONE,0LACROSSE STICKapbm,0SOFTBALL,0FLYING DISC,0CROISSANT,0AVOCADO,0CUCUMBER,0BACON",
   "0POTATO,0CARROT,0BAGUETTE BREAD,0GREEN SALAD,0SHALLOW PAN OF FOOD,0STUFFED FLATBREAD,0EGG",
   "0GLASS OF MILK,0PEANUTS,0KIWIFRUIT,0PANCAKES,0DUMPLING,0FORTUNE COOKIE,0TAKEOUTcg,0CHOPSTICKS",
   "0BOWLzeSPOON,0CUPzeSTRAW,0COCONUT,0BROCCOLI,0PIE,0PRETZEL,0CUT OF MEAT,0SANDWICH,0CANNED FOOD",
   "0LEAFY GREEN,0MANGO,0nyCAKE,0BAGEL,0umhazeumgzapwujj,0YAWNINGha,0umhazeTEAR,0hazePARTYjuapPARTY HAT",
   "2UNEVENgzapWAVYoa,0OVERHEATEDha,0FREEZINGha,0NINJA,0DISGUISEDha,0hajrbiTEARS,1zePLEADINGgz,0SARI",
   "0LAB COAT,0GOGGLES,0HIKING BOOT,0FLAT SHOE,0CRAB,0LIONha,0SCORPION,0TURKEY,0UNICORNha,0EAGLE,0DUCK",
   "0BAT,0SHARK,0OWL,0FOXha,0BUTTERFLY,0DEER,0GORILLA,0LIZARD,0RHINOCEROS,0SHRIMP,0SQUID,0GIRAFFEha",
   "0ZEBRAha,0HEDGEHOG,0SAUROPOD,0T-REX,0CRICKET,0KANGAROO,0LLAMA,0PEACOCK,0HIPPOPOTAMUS,0PARROT",
   "0RACCOON,0LOBSTER,0MOSQUITO,0MICROBE,0BADGER,0SWAN,0MAMMOTH,0DODO,0SLOTH,0OTTER,0ORANGUTAN,0SKUNK",
   "0FLAMINGO,0OYSTER,0BEAVER,0BISON,0SEAL,0GUIDE DOG,0PROBING CANE,0EMOJI COMPONENT RED HAIR,2eiHAIR",
   "2BALD,2zcHAIR,0BONE,0mm,0FOOT,0TOOTH,0SUPERHERO,0SUPERVILLAIN,0SAFETY VEST,0EARzeHEARING AID",
   "0MOTORIZED WHEELCHAIR,0MANUAL WHEELCHAIR,0MECHANICAL ARM,1mm,0CHEESE WEDGE,0CUPCAKE,0SALT SHAKER",
   "0BEVERAGEcg,0GARLIC,0ONION,0FALAFEL,0WAFFLE,0BUTTER,0MATE DRINK,0ICE CUBE,0cjTEA,0TROLL,0STANDINGqk",
   "0KNEELINGqk,0DEAFqk,0hazeMONOCLE,0ADULT,0CHILD,0OLDER ADULT,0BEARDEDqk,0qkzeHEADSCARF",
   "1IN STEAMY ROOM,1CLIMBING,1IN LOTUS POSITION,0MAGE,0FAIRY,0VAMPIRE,0MERPERSON,0ELF,0GENIE,0ZOMBIE",
   "0BRAIN,0ORANGEji,0BILLED CAP,0SCARF,0GLOVES,0COAT,0SOCKS,0RED GIFTgm,0FIRECRACKER",
   "0JIGSAW PUZZLE PIECE,0TEST TUBE,0PETRIfj,0DNAfsHELIX,0COMPASS,0ABACUS,0hnEXTINGUISHER,0TOOLBOX",
   "0BRICK,0MAGNET,0LUGGAGE,0LOTION BOTTLE,0SPOOL OF THREAD,0bmOF YARN,0SAFETY PIN,0TEDDY BEAR,0BROOM",
   "0BASKET,0ROLL OF PAPER,0boOF SOAP,0SPONGE,0RECEIPT,0NAZAR AMULET,0omddlq,2rj,2sh,2ca,2lt,2qi",
   "0zcddltsiFORTY-FIVEew,0cbddltsiFORTY-FIVEew,0omddltsiFORTY-FIVEew,0zcddlqsiosew,2rjsiosew,2shsiosew",
   "2casiosew,2ltsiosew,2qisiosew,0cbddlqsiosew,2rjsiosew,2shsiosew,2casiosew,2ltsiosew,2qisiosew",
   "0omddlqsiosew,2rjsiosew,2shsiosew,2casiosew,2ltsiosew,2qisiosew,0zcddltsipojwTHIRTY-FIVEew",
   "0cbddltsipojwTHIRTY-FIVEew,0omddltsipojwTHIRTY-FIVEew,0zcddxulq,3rj,3sh,3ca,3lt,3qi,0cbddxulq,3rj",
   "3sh,3ca,3lt,3qi,0omddxulq,3rj,3sh,3ca,3lt,3qi,0zcddltsiyajwxzew,0cbddltsiyajwxzew,0omddltsiyajwxzew",
   "0zcddlqsiyajwtiew,2rjsiyajwtiew,2shsiyajwtiew,2casiyajwtiew,2ltsiyajwtiew,2qisiyajwtiew",
   "0cbddlqsiyajwtiew,2rjsiyajwtiew,2shsiyajwtiew,2casiyajwtiew,2ltsiyajwtiew,2qisiyajwtiew",
   "0omddlqsiyajwtiew,2rjsiyajwtiew,2shsiyajwtiew,2casiyajwtiew,2ltsiyajwtiew,2qisiyajwtiew",
   "0zcddltsiwujwhfew,0cbddltsiwujwhfew,0omddltsiwujwhfew,0zcddgq,0cbddgq,0omddgq,0zcddgqsiosew",
   "0cbddgqsiosew,0omddgqsiosew,0zcddKNIGHT-QUEEN,2KNIGHT-ROOK,2KNIGHT-BISHOP,0cbddKNIGHT-QUEEN",
   "2KNIGHT-ROOK,2KNIGHT-BISHOP,+c,0XIANGQI RED GENERAL,2MANDARIN,2ELEPHANT,2jv,2CHARIOT,2CANNON",
   "2SOLDIER,1cbGENERAL,2MANDARIN,2ELEPHANT,2jv,2CHARIOT,2CANNON,2SOLDIER,+2,0BALLET SHOES",
   "0ONE-PIECE SWIMSUIT,0BRIEFS,0SHORTS,0THONG SANDAL,+3,0DROP OF BLOOD,0ADHESIVE BANDAGE,0STETHOSCOPE",
   "0X-RAY,0CRUTCH,+3,0YO-YO,0KITE,0PARACHUTE,0BOOMERANG,0MAGIC WAND,0PINATA,0NESTING DOLLS,+9",
   "0RINGED PLANET,0CHAIR,0RAZOR,0AXE,0DIYA LAMP,0BANJO,0MILITARY HELMET,0ACCORDION,0mxDRUM,0COIN",
   "0CARPENTRY SAW,0SCREWDRIVER,0LADDER,0js,0MIRROR,0WINDOW,0PLUNGER,0SEWING NEEDLE,0KNOT,0BUCKET",
   "0MOUSE TRAP,0TOOTHBRUSH,0HEADSTONE,0PLACARD,0ROCK,0MIRRORbm,0IDENTIFICATION CARD,0naBATTERY,0HAMSA",
   "+3,0FLY,0WORM,0BEETLE,0COCKROACH,0POTTED PLANT,0WOOD,0FEATHER,0LOTUS,0CORAL,0EMPTY NEST,0NESTzeEGGS",
   "+5,0ANATOMICALji,0LUNGS,0PEOPLE HUGGING,0PREGNANTnj,1qk,0qkzeCROWN,+a,0BLUEBERRIES,0BELL PEPPER",
   "0OLIVE,0FLATBREAD,0TAMALE,0FONDUE,0TEAPOT,0POURING LIQUID,0BEANS,0JAR,+6,0MELTINGha,0SALUTINGha",
   "0hazeppgzapiwpvoa,2PEEKING EYE,2fboa,0frmtha,0BITING LIP,0BUBBLES,+8,0iwzekfhkapwwed,0seiw,0mliw",
   "0PALMfviw,1UPiw,0kfqtATwiVIEWER,0jije,+9,0cdSEXTANT-1,1SEXTANT-2,1SEXTANT-12,1SEXTANT-3,1SEXTANT-13",
   "1SEXTANT-23,1SEXTANT-123,1SEXTANT-4,1SEXTANT-14,1SEXTANT-24,1SEXTANT-124,1SEXTANT-34,1SEXTANT-134",
   "1SEXTANT-234,1SEXTANT-1234,1SEXTANT-5,1SEXTANT-15,1SEXTANT-25,1SEXTANT-125,1SEXTANT-35,1SEXTANT-235",
   "1SEXTANT-1235,1SEXTANT-45,1SEXTANT-145,1SEXTANT-245,1SEXTANT-1245,1SEXTANT-345,1SEXTANT-1345",
   "1SEXTANT-2345,1SEXTANT-12345,1SEXTANT-6,1SEXTANT-16,1SEXTANT-26,1SEXTANT-126,1SEXTANT-36",
   "1SEXTANT-136,1SEXTANT-236,1SEXTANT-1236,1SEXTANT-46,1SEXTANT-146,1SEXTANT-1246,1SEXTANT-346",
   "1SEXTANT-1346,1SEXTANT-2346,1SEXTANT-12346,1SEXTANT-56,1SEXTANT-156,1SEXTANT-256,1SEXTANT-1256",
   "1SEXTANT-356,1SEXTANT-1356,1SEXTANT-2356,1SEXTANT-12356,1SEXTANT-456,1SEXTANT-1456,1SEXTANT-2456",
   "1SEXTANT-12456,1SEXTANT-3456,1SEXTANT-13456,1SEXTANT-23456,0nbmgcdfbnbnsmgTOnbcw,9rz,4yhnsmgTOnbcw",
   "9rz,5mgTOnbcw,1rzcdfbyhnsmgTOyhcw,9rz,4nbnsmgTOyhcw,9rz,5mgTOyhcw,5nsmgTOyhnsrz,5cwTOnbnsrz",
   "5mgTOnbnsrz,5cwTOyhnsrz,5mgTOyhnsrz,5cwTOyhrz,1mgcdfbyhcwTOyhnsrz,5mgTOyhnsrz,5cwTOnbnsrz",
   "5mgTOnbnsrz,5cwTOnbrz,5nsmgTOnbnsrz,0yhrzcdfbnbnsmgTOnbcw,9rz,4yhnsmgTOnbcw,9rz,5mgTOnbcw",
   "1mgcdfbyhnsmgTOyhcw,9rz,4nbnsmgTOyhcw,9rz,5mgTOyhcw,5nsmgTOyhnsrz,5cwTOnbnsrz,5mgTOnbnsrz",
   "5cwTOyhnsrz,5mgTOyhnsrz,5cwTOyhrz,1rzcdfbyhcwTOyhnsrz,5mgTOyhnsrz,5cwTOnbnsrz,5mgTOnbnsrz,5cwTOnbrz",
   "5nsmgTOnbnsrz,1aprzapnbxmwuricd,0mgapnbaprzxmwuricd,0yhapmgapnbxmwuricd,0mgapyhaprzxmwuricd",
   "1xmporhcd,0yhxmporhcd,0rzxmporhcd,0nbxmporhcd,0ynpogeBLOCK-2,3BLOCK-3,3BLOCK-4,3BLOCK-5,3BLOCK-6",
   "3BLOCK-7,0jtpogeBLOCK-2,3BLOCK-3,3BLOCK-4,3BLOCK-5,3BLOCK-6,3BLOCK-7,0mgapnbpogecd,2yhpogecd",
   "0rzapyhpogecd,2nbpogecd,0yhapnbpogecd,0jtpogeBLOCK-1358,0yhporhcd,1wugfcd,1hqgfcd,1wuricd,1tggfcd",
   "0rzporhcd,1wugfcd,1hqgfcd,1wuricd,1tggfcd,0mgiunptl,0rziunptl,0yhiunptl,0nbiunptl,0konptl",
   "0yhiucdapnbiukonptl,2konptlapnbiucd,+1,0mgiukonptlaprziucd,0CHECKER BOARDhh,0koCHECKER BOARDhh",
   "0jkjthh,0yhmgTOnbrzhh,1rzTOnbmghh,1apnbxmiucd,0mgaprzxmiucd,0yhmgxmnptl,1rzxmnptl,0nbrzxmnptl",
   "1mgxmnptl,0cgDRAWINGSmsfbyhcwTOnsmg,8rz,4nsmgTOnbcw,5rzTOnbcw,4yhcwTOnsmgTOnbcw,8rzTOnbcw",
   "4nsmgTOnbcwTOnsrz,7yhcwTOnsrz,4yhcwTOnsmgapnsrzTOnbcw,8rzapnsmgTOnbcw,9TOnbcwTOnsmg,8mgTOnbcwTOnsrz",
   "4nsmgTOyhcwTOnsrzTOnbcw,5rzTOyhcwTOnsmgTOnbcw,4fe,3jtzeynvf,0ARROWHEAD-SHAPED POINTER,0kodcnk",
   "0mgiuRUNNINGnj,0rziuRUNNINGnj,0kofxbazeTIPml,0mlbaapyhapnbpogecd,0sebaapyhapnbpogecd,0fxbaaprzpogecd",
   "0yjbaaprzpogecd,0mgiuht,0rziuht,0VOIDEDiqec,0rzppuxfo,0ojfbec,2nsrzTOnbcw,2fe,0zcjksrzesmCORNERS",
   "0mgwnzcrzqtkf,0nswnzcrzqtkf,0rzwnzcrzqtkf,0ojuxrknk,0STICK FIGURE,2zeARMSrm,2LEANINGmg,3rz,2zeDRESS",
   "0zcyfCHEVRON,+25,0SEGMENTEDfhzv,2po,2ya,2wu,2hy,2hq,2uf,2tg,2gc,2oq,+fc06",
   "0CJK COMPATIBILITY IDEOGRAPH-#,=21d,+b05e3,0LANGUAGE TAG,+1e,0TAGur,1gvnk,1rlnk,1peua,1fnua",
   "1PERCENTua,1ao,1au,1mgqf,1rzqf,1be,1qqua,1dr,1jy,1icvd,1uo,1fhzv,2po,2ya,2wu,2hy,2hq,2uf,2tg,2gc,2oq",
   "1dp,1td,1mpua,1gpua,1ipua,1rknk,1dsAT,1mecpmqA,4B,4C,4D,4E,4F,4G,4H,4I,4J,4K,4L,4M,4N,4O,4P,4Q,4R,4S",
   "4T,4U,4V,4W,4X,4Y,4Z,1mguwch,1rsuo,1rzuwch,1dkad,1namt,1ioad,1meulmqA,4B,4C,4D,4E,4F,4G,4H,4I,4J,4K",
   "4L,4M,4N,4O,4P,4Q,4R,4S,4T,4U,4V,4W,4X,4Y,4Z,1mgeich,1ynmt,1rzeich,1wy,0CANCEL TAG,+80",
   "0ymSELECTOR-17,1SELECTOR-18,1SELECTOR-19,1SELECTOR-20,1SELECTOR-21,1SELECTOR-22,1SELECTOR-23",
   "1SELECTOR-24,1SELECTOR-25,1SELECTOR-26,1SELECTOR-27,1SELECTOR-28,1SELECTOR-29,1SELECTOR-30",
   "1SELECTOR-31,1SELECTOR-32,1SELECTOR-33,1SELECTOR-34,1SELECTOR-35,1SELECTOR-36,1SELECTOR-37",
   "1SELECTOR-38,1SELECTOR-39,1SELECTOR-40,1SELECTOR-41,1SELECTOR-42,1SELECTOR-43,1SELECTOR-44",
   "1SELECTOR-45,1SELECTOR-46,1SELECTOR-47,1SELECTOR-48,1SELECTOR-49,1SELECTOR-50,1SELECTOR-51",
   "1SELECTOR-52,1SELECTOR-53,1SELECTOR-54,1SELECTOR-55,1SELECTOR-56,1SELECTOR-57,1SELECTOR-58",
   "1SELECTOR-59,1SELECTOR-60,1SELECTOR-61,1SELECTOR-62,1SELECTOR-63,1SELECTOR-64,1SELECTOR-65",
   "1SELECTOR-66,1SELECTOR-67,1SELECTOR-68,1SELECTOR-69,1SELECTOR-70,1SELECTOR-71,1SELECTOR-72",
   "1SELECTOR-73,1SELECTOR-74,1SELECTOR-75,1SELECTOR-76,1SELECTOR-77,1SELECTOR-78,1SELECTOR-79",
   "1SELECTOR-80,1SELECTOR-81,1SELECTOR-82,1SELECTOR-83,1SELECTOR-84,1SELECTOR-85,1SELECTOR-86",
   "1SELECTOR-87,1SELECTOR-88,1SELECTOR-89,1SELECTOR-90,1SELECTOR-91,1SELECTOR-92,1SELECTOR-93",
   "1SELECTOR-94,1SELECTOR-95,1SELECTOR-96,1SELECTOR-97,1SELECTOR-98,1SELECTOR-99,1SELECTOR-100",
   "1SELECTOR-101,1SELECTOR-102,1SELECTOR-103,1SELECTOR-104,1SELECTOR-105,1SELECTOR-106,1SELECTOR-107",
   "1SELECTOR-108,1SELECTOR-109,1SELECTOR-110,1SELECTOR-111,1SELECTOR-112,1SELECTOR-113,1SELECTOR-114",
   "1SELECTOR-115,1SELECTOR-116,1SELECTOR-117,1SELECTOR-118,1SELECTOR-119,1SELECTOR-120,1SELECTOR-121",
   "1SELECTOR-122,1SELECTOR-123,1SELECTOR-124,1SELECTOR-125,1SELECTOR-126,1SELECTOR-127,1SELECTOR-128",
   "1SELECTOR-129,1SELECTOR-130,1SELECTOR-131,1SELECTOR-132,1SELECTOR-133,1SELECTOR-134,1SELECTOR-135",
   "1SELECTOR-136,1SELECTOR-137,1SELECTOR-138,1SELECTOR-139,1SELECTOR-140,1SELECTOR-141,1SELECTOR-142",
   "1SELECTOR-143,1SELECTOR-144,1SELECTOR-145,1SELECTOR-146,1SELECTOR-147,1SELECTOR-148,1SELECTOR-149",
   "1SELECTOR-150,1SELECTOR-151,1SELECTOR-152,1SELECTOR-153,1SELECTOR-154,1SELECTOR-155,1SELECTOR-156",
   "1SELECTOR-157,1SELECTOR-158,1SELECTOR-159,1SELECTOR-160,1SELECTOR-161,1SELECTOR-162,1SELECTOR-163",
   "1SELECTOR-164,1SELECTOR-165,1SELECTOR-166,1SELECTOR-167,1SELECTOR-168,1SELECTOR-169,1SELECTOR-170",
   "1SELECTOR-171,1SELECTOR-172,1SELECTOR-173,1SELECTOR-174,1SELECTOR-175,1SELECTOR-176,1SELECTOR-177",
   "1SELECTOR-178,1SELECTOR-179,1SELECTOR-180,1SELECTOR-181,1SELECTOR-182,1SELECTOR-183,1SELECTOR-184",
   "1SELECTOR-185,1SELECTOR-186,1SELECTOR-187,1SELECTOR-188,1SELECTOR-189,1SELECTOR-190,1SELECTOR-191",
   "1SELECTOR-192,1SELECTOR-193,1SELECTOR-194,1SELECTOR-195,1SELECTOR-196,1SELECTOR-197,1SELECTOR-198",
   "1SELECTOR-199,1SELECTOR-200,1SELECTOR-201,1SELECTOR-202,1SELECTOR-203,1SELECTOR-204,1SELECTOR-205",
   "1SELECTOR-206,1SELECTOR-207,1SELECTOR-208,1SELECTOR-209,1SELECTOR-210,1SELECTOR-211,1SELECTOR-212",
   "1SELECTOR-213,1SELECTOR-214,1SELECTOR-215,1SELECTOR-216,1SELECTOR-217,1SELECTOR-218,1SELECTOR-219",
   "1SELECTOR-220,1SELECTOR-221,1SELECTOR-222,1SELECTOR-223,1SELECTOR-224,1SELECTOR-225,1SELECTOR-226",
   "1SELECTOR-227,1SELECTOR-228,1SELECTOR-229,1SELECTOR-230,1SELECTOR-231,1SELECTOR-232,1SELECTOR-233",
   "1SELECTOR-234,1SELECTOR-235,1SELECTOR-236,1SELECTOR-237,1SELECTOR-238,1SELECTOR-239,1SELECTOR-240",
   "1SELECTOR-241,1SELECTOR-242,1SELECTOR-243,1SELECTOR-244,1SELECTOR-245,1SELECTOR-246,1SELECTOR-247",
   "1SELECTOR-248,1SELECTOR-249,1SELECTOR-250,1SELECTOR-251,1SELECTOR-252,1SELECTOR-253,1SELECTOR-254",
   "1SELECTOR-255,1SELECTOR-256"]

end SdkGen.Text.Table
