import SdkGen.Value

/-!
# Members that are ordinary values

What some of the names stand for that places with names have: texts, numbers that are not whole, sequences and
mappings. Of those that have many parts, only the first ones are kept.
-/

namespace SdkGen.Yaml

/-- A sequence of words, given in rows. -/
def words (kind : SequenceKind) (rows : List String) : Value :=
  .sequence kind ((rows.flatMap (·.splitOn " ")).map .text)

/-- The ordinary values, by their names behind those of their places. -/
def memberValues : List (String × Value) :=
  [("builtins.False", .bool false),
    ("builtins.None", .null),
    ("builtins.True", .bool true),
    ("builtins.__debug__", .bool true),
    ("builtins.__name__", .text "builtins"),
    ("builtins.__package__", .text ""),
    ("argparse.ONE_OR_MORE", .text "+"),
    ("argparse.OPTIONAL", .text "?"),
    ("argparse.PARSER", .text "A..."),
    ("argparse.REMAINDER", .text "..."),
    ("argparse.SUPPRESS", .text "==SUPPRESS=="),
    ("argparse.ZERO_OR_MORE", .text "*"),
    ("argparse.__all__",
      words .list ["ArgumentParser ArgumentError ArgumentTypeError BooleanOptionalAction FileType",
        "HelpFormatter ArgumentDefaultsHelpFormatter RawDescriptionHelpFormatter",
        "RawTextHelpFormatter MetavarTypeHelpFormatter Namespace Action ONE_OR_MORE OPTIONAL",
        "PARSER REMAINDER SUPPRESS ZERO_OR_MORE"]),
    ("argparse.__version__", .text "1.1"),
    ("asyncio.ALL_COMPLETED", .text "ALL_COMPLETED"),
    ("asyncio.FIRST_COMPLETED", .text "FIRST_COMPLETED"),
    ("asyncio.FIRST_EXCEPTION", .text "FIRST_EXCEPTION"),
    ("asyncio.__all__",
      words .tuple ["BaseEventLoop Server iscoroutinefunction iscoroutine AbstractEventLoopPolicy",
        "AbstractEventLoop AbstractServer Handle TimerHandle get_event_loop_policy",
        "set_event_loop_policy get_event_loop set_event_loop new_event_loop get_child_watcher",
        "set_child_watcher _set_running_loop get_running_loop _get_running_loop",
        "BrokenBarrierError CancelledError InvalidStateError TimeoutError IncompleteReadError",
        "LimitOverrunError SendfileNotAvailableError Future wrap_future isfuture Lock Event",
        "Condition Semaphore BoundedSemaphore Barrier BaseProtocol"]),
    ("base64.__all__",
      words .list ["encode decode encodebytes decodebytes b64encode b64decode b32encode b32decode",
        "b32hexencode b32hexdecode b16encode b16decode b85encode b85decode a85encode",
        "a85decode standard_b64encode standard_b64decode urlsafe_b64encode urlsafe_b64decode"]),
    ("base64.bytes_types", .sequence .tuple [.foreign "type", .foreign "type"]),
    ("bz2.__all__", words .list ["BZ2File BZ2Compressor BZ2Decompressor open compress decompress"]),
    ("bz2.__author__", .text "Nadeem Vawda <nadeem.vawda@gmail.com>"),
    ("calendar.__all__",
      words .list ["IllegalMonthError IllegalWeekdayError setfirstweekday firstweekday isleap leapdays",
        "weekday monthrange monthcalendar prmonth month prcal calendar timegm month_name",
        "month_abbr day_name day_abbr Calendar TextCalendar HTMLCalendar LocaleTextCalendar",
        "LocaleHTMLCalendar weekheader MONDAY TUESDAY WEDNESDAY THURSDAY FRIDAY SATURDAY", "SUNDAY"]),
    ("calendar.mdays",
      .sequence .list [.int 0, .int 31, .int 28, .int 31, .int 30, .int 31, .int 30, .int 31, .int 31,
        .int 30, .int 31, .int 30, .int 31]),
    ("codecs.BOM", .bytes [0xFF, 0xFE]),
    ("codecs.BOM32_BE", .bytes [0xFE, 0xFF]),
    ("codecs.BOM32_LE", .bytes [0xFF, 0xFE]),
    ("codecs.BOM64_BE", .bytes [0x00, 0x00, 0xFE, 0xFF]),
    ("codecs.BOM64_LE", .bytes [0xFF, 0xFE, 0x00, 0x00]),
    ("codecs.BOM_BE", .bytes [0xFE, 0xFF]),
    ("codecs.BOM_LE", .bytes [0xFF, 0xFE]),
    ("codecs.BOM_UTF16", .bytes [0xFF, 0xFE]),
    ("codecs.BOM_UTF16_BE", .bytes [0xFE, 0xFF]),
    ("codecs.BOM_UTF16_LE", .bytes [0xFF, 0xFE]),
    ("codecs.BOM_UTF32", .bytes [0xFF, 0xFE, 0x00, 0x00]),
    ("codecs.BOM_UTF32_BE", .bytes [0x00, 0x00, 0xFE, 0xFF]),
    ("codecs.BOM_UTF32_LE", .bytes [0xFF, 0xFE, 0x00, 0x00]),
    ("codecs.BOM_UTF8", .bytes [0xEF, 0xBB, 0xBF]),
    ("codecs.__all__",
      words .list ["register lookup open EncodedFile BOM BOM_BE BOM_LE BOM32_BE BOM32_LE BOM64_BE",
        "BOM64_LE BOM_UTF8 BOM_UTF16 BOM_UTF16_LE BOM_UTF16_BE BOM_UTF32 BOM_UTF32_LE",
        "BOM_UTF32_BE CodecInfo Codec IncrementalEncoder IncrementalDecoder StreamReader",
        "StreamWriter StreamReaderWriter StreamRecoder getencoder getdecoder",
        "getincrementalencoder getincrementaldecoder getreader getwriter encode decode",
        "iterencode iterdecode"]),
    ("collections.__all__",
      words .list ["ChainMap Counter OrderedDict UserDict UserList UserString defaultdict deque",
        "namedtuple"]),
    ("collections.abc.__all__",
      words .list ["Awaitable Coroutine AsyncIterable AsyncIterator AsyncGenerator Hashable Iterable",
        "Iterator Generator Reversible Sized Container Callable Collection Set MutableSet",
        "Mapping MutableMapping MappingView KeysView ItemsView ValuesView Sequence",
        "MutableSequence ByteString"]),
    ("colorsys.ONE_SIXTH", .float 0.16666666666666666),
    ("colorsys.ONE_THIRD", .float 0.3333333333333333),
    ("colorsys.TWO_THIRD", .float 0.6666666666666666),
    ("colorsys.__all__",
      words .list ["rgb_to_yiq yiq_to_rgb rgb_to_hls hls_to_rgb rgb_to_hsv hsv_to_rgb"]),
    ("concurrent.futures.ALL_COMPLETED", .text "ALL_COMPLETED"),
    ("concurrent.futures.FIRST_COMPLETED", .text "FIRST_COMPLETED"),
    ("concurrent.futures.FIRST_EXCEPTION", .text "FIRST_EXCEPTION"),
    ("concurrent.futures.__all__",
      words .tuple ["FIRST_COMPLETED FIRST_EXCEPTION ALL_COMPLETED CancelledError TimeoutError",
        "BrokenExecutor Future Executor wait as_completed ProcessPoolExecutor", "ThreadPoolExecutor"]),
    ("concurrent.futures.__author__", .text "Brian Quinlan (brian@sweetapp.com)"),
    ("configparser.DEFAULTSECT", .text "DEFAULT"),
    ("configparser.__all__",
      words .list ["NoSectionError DuplicateOptionError DuplicateSectionError NoOptionError",
        "InterpolationError InterpolationDepthError InterpolationMissingOptionError",
        "InterpolationSyntaxError ParsingError MissingSectionHeaderError ConfigParser",
        "SafeConfigParser RawConfigParser Interpolation BasicInterpolation",
        "ExtendedInterpolation LegacyInterpolation SectionProxy ConverterMapping DEFAULTSECT",
        "MAX_INTERPOLATION_DEPTH"]),
    ("contextlib.__all__",
      words .list ["asynccontextmanager contextmanager closing nullcontext AbstractContextManager",
        "AbstractAsyncContextManager AsyncExitStack ContextDecorator ExitStack",
        "redirect_stdout redirect_stderr suppress aclosing chdir"]),
    ("contextvars.__all__", words .tuple ["Context ContextVar Token copy_context"]),
    ("copy.__all__", words .list ["Error copy deepcopy"]),
    ("copy.dispatch_table",
      .map [(.foreign "type", .foreign "function"), (.foreign "type", .foreign "function"),
        (.foreign "type", .foreign "function")]),
    ("copyreg.__all__",
      words .list ["pickle constructor add_extension remove_extension clear_extension_cache"]),
    ("copyreg.dispatch_table",
      .map [(.foreign "type", .foreign "function"), (.foreign "type", .foreign "function"),
        (.foreign "type", .foreign "function")]),
    ("csv.__all__",
      words .list ["QUOTE_MINIMAL QUOTE_ALL QUOTE_NONNUMERIC QUOTE_NONE Error Dialect __doc__ excel",
        "excel_tab field_size_limit reader writer register_dialect get_dialect list_dialects",
        "Sniffer unregister_dialect __version__ DictReader DictWriter unix_dialect"]),
    ("csv.__version__", .text "1.0"),
    ("dataclasses.__all__",
      words .list ["dataclass field Field FrozenInstanceError InitVar KW_ONLY MISSING fields asdict",
        "astuple make_dataclass replace is_dataclass"]),
    ("datetime.__all__",
      words .tuple ["date datetime time timedelta timezone tzinfo MINYEAR MAXYEAR UTC"]),
    ("decimal.HAVE_CONTEXTVAR", .bool true),
    ("decimal.HAVE_THREADS", .bool true),
    ("decimal.ROUND_05UP", .text "ROUND_05UP"),
    ("decimal.ROUND_CEILING", .text "ROUND_CEILING"),
    ("decimal.ROUND_DOWN", .text "ROUND_DOWN"),
    ("decimal.ROUND_FLOOR", .text "ROUND_FLOOR"),
    ("decimal.ROUND_HALF_DOWN", .text "ROUND_HALF_DOWN"),
    ("decimal.ROUND_HALF_EVEN", .text "ROUND_HALF_EVEN"),
    ("decimal.ROUND_HALF_UP", .text "ROUND_HALF_UP"),
    ("decimal.ROUND_UP", .text "ROUND_UP"),
    ("decimal.__version__", .text "1.70"),
    ("dis.COMPILER_FLAG_NAMES",
      .map [(.int 1, .text "OPTIMIZED"), (.int 2, .text "NEWLOCALS"), (.int 4, .text "VARARGS"),
        (.int 8, .text "VARKEYWORDS"), (.int 16, .text "NESTED"), (.int 32, .text "GENERATOR")]),
    ("dis.FORMAT_VALUE_CONVERTERS",
      .sequence .tuple [.sequence .tuple [.null, .text ""], .sequence .tuple [.foreign "type",
        .text "str"], .sequence .tuple [.foreign "builtin_function_or_method", .text "repr"],
        .sequence .tuple [.foreign "builtin_function_or_method", .text "ascii"]]),
    ("dis.MAKE_FUNCTION_FLAGS", words .tuple ["defaults kwdefaults annotations closure"]),
    ("dis.__all__",
      words .list ["code_info dis disassemble distb disco findlinestarts findlabels show_code",
        "get_instructions Instruction Bytecode cmp_op hasconst hasname hasjrel hasjabs",
        "haslocal hascompare hasfree opname opmap HAVE_ARGUMENT EXTENDED_ARG hasnargs", "stack_effect"]),
    ("dis.cmp_op", words .tuple ["< <= == != > >="]),
    ("dis.deoptmap",
      .map [(.text "BINARY_OP_ADAPTIVE", .text "BINARY_OP"), (.text "BINARY_OP_ADD_FLOAT",
        .text "BINARY_OP"), (.text "BINARY_OP_ADD_INT", .text "BINARY_OP"),
        (.text "BINARY_OP_ADD_UNICODE", .text "BINARY_OP"), (.text "BINARY_OP_INPLACE_ADD_UNICODE",
        .text "BINARY_OP"), (.text "BINARY_OP_MULTIPLY_FLOAT", .text "BINARY_OP")]),
    ("dis.hascompare", .sequence .list [.int 107]),
    ("dis.hasconst", .sequence .list [.int 100, .int 172]),
    ("dis.hasfree", .sequence .list [.int 135, .int 136, .int 137, .int 138, .int 139, .int 148]),
    ("dis.hasjabs", .sequence .list []),
    ("dis.hasjrel",
      .sequence .list [.int 93, .int 110, .int 111, .int 112, .int 114, .int 115, .int 123, .int 128,
        .int 129, .int 134, .int 140, .int 173, .int 174, .int 175, .int 176]),
    ("dis.haslocal", .sequence .list [.int 124, .int 125, .int 126]),
    ("dis.hasname",
      .sequence .list [.int 90, .int 91, .int 95, .int 96, .int 97, .int 98, .int 101, .int 106,
        .int 108, .int 109, .int 116, .int 160]),
    ("dis.hasnargs", .sequence .list []),
    ("dis.opmap",
      .map [(.text "CACHE", .int 0), (.text "POP_TOP", .int 1), (.text "PUSH_NULL", .int 2),
        (.text "NOP", .int 9), (.text "UNARY_POSITIVE", .int 10), (.text "UNARY_NEGATIVE", .int 11)]),
    ("dis.opname",
      words .list ["CACHE POP_TOP PUSH_NULL <3> <4> <5> <6> <7> <8> NOP UNARY_POSITIVE UNARY_NEGATIVE",
        "UNARY_NOT <13> <14> UNARY_INVERT <16> <17> <18> <19> <20> <21> <22> <23> <24>",
        "BINARY_SUBSCR <26> <27> <28> <29> GET_LEN MATCH_MAPPING MATCH_SEQUENCE MATCH_KEYS",
        "<34> PUSH_EXC_INFO"]),
    ("dis.specialized", .text "UNPACK_SEQUENCE_TWO_TUPLE"),
    ("email.__all__",
      words .list ["base64mime charset encoders errors feedparser generator header iterators message",
        "message_from_file message_from_binary_file message_from_string message_from_bytes",
        "mime parser quoprimime utils"]),
    ("email.message.SEMISPACE", .text "; "),
    ("email.message.__all__", words .list ["Message EmailMessage"]),
    ("email.utils.COMMASPACE", .text ", "),
    ("email.utils.CRLF", .text "\r\n"),
    ("email.utils.EMPTYSTRING", .text ""),
    ("email.utils.TICK", .text "'"),
    ("email.utils.UEMPTYSTRING", .text ""),
    ("email.utils.__all__",
      words .list ["collapse_rfc2231_value decode_params decode_rfc2231 encode_rfc2231 formataddr",
        "formatdate format_datetime getaddresses make_msgid mktime_tz parseaddr parsedate",
        "parsedate_tz parsedate_to_datetime unquote"]),
    ("email.utils.supports_strict_parsing", .bool true),
    ("enum.CONFORM", .text "conform"),
    ("enum.CONTINUOUS", .text "no skipped integer values"),
    ("enum.EJECT", .text "eject"),
    ("enum.KEEP", .text "keep"),
    ("enum.NAMED_FLAGS", .text "multi-flag aliases may not contain unnamed flags"),
    ("enum.STRICT", .text "strict"),
    ("enum.UNIQUE", .text "one name per value"),
    ("enum.__all__",
      words .list ["EnumType EnumMeta Enum IntEnum StrEnum Flag IntFlag ReprEnum auto unique property",
        "verify member nonmember FlagBoundary STRICT CONFORM EJECT KEEP global_flag_repr",
        "global_enum_repr global_str global_enum EnumCheck CONTINUOUS NAMED_FLAGS UNIQUE",
        "pickle_by_global_name pickle_by_enum_name"]),
    ("errno.errorcode",
      .map [(.int 19, .text "ENODEV"), (.int 50, .text "ENOCSI"), (.int 113, .text "EHOSTUNREACH"),
        (.int 42, .text "ENOMSG"), (.int 117, .text "EUCLEAN"), (.int 45, .text "EL2NSYNC")]),
    ("fnmatch.__all__", words .list ["filter fnmatch fnmatchcase translate"]),
    ("fractions.__all__", words .list ["Fraction"]),
    ("functools.WRAPPER_ASSIGNMENTS",
      words .tuple ["__module__ __name__ __qualname__ __doc__ __annotations__"]),
    ("functools.WRAPPER_UPDATES", words .tuple ["__dict__"]),
    ("functools.__all__",
      words .list ["update_wrapper wraps WRAPPER_ASSIGNMENTS WRAPPER_UPDATES total_ordering cache",
        "cmp_to_key lru_cache reduce partial partialmethod singledispatch",
        "singledispatchmethod cached_property"]),
    ("genericpath.__all__",
      words .list ["commonprefix exists getatime getctime getmtime getsize isdir isfile samefile",
        "sameopenfile samestat"]),
    ("getpass.__all__", words .list ["getpass getuser GetPassWarning"]),
    ("gettext.__all__",
      words .list ["NullTranslations GNUTranslations Catalog bindtextdomain find translation install",
        "textdomain dgettext dngettext gettext ngettext pgettext dpgettext npgettext", "dnpgettext"]),
    ("glob.__all__", words .list ["glob iglob escape"]),
    ("hashlib.__all__",
      words .tuple ["md5 sha1 sha224 sha256 sha384 sha512 blake2b blake2s sha3_224 sha3_256 sha3_384",
        "sha3_512 shake_128 shake_256 new algorithms_guaranteed algorithms_available",
        "pbkdf2_hmac file_digest"]),
    ("hashlib.algorithms_available", words .set ["md5 sha1"]),
    ("hashlib.algorithms_guaranteed",
      words .set ["blake2b blake2s md5 sha1 sha224 sha256 sha384 sha3_224 sha3_256 sha3_384 sha3_512",
        "sha512 shake_128 shake_256"]),
    ("heapq.__all__",
      words .list ["heappush heappop heapify heapreplace merge nlargest nsmallest heappushpop"]),
    ("html.__all__", words .list ["escape unescape"]),
    ("html.entities.__all__", words .list ["html5 name2codepoint codepoint2name entitydefs"]),
    ("html.entities.codepoint2name",
      .map [(.int 198, .text "AElig"), (.int 193, .text "Aacute"), (.int 194, .text "Acirc"), (.int 192,
        .text "Agrave"), (.int 913, .text "Alpha"), (.int 197, .text "Aring")]),
    ("html.entities.entitydefs",
      .map [(.text "AElig", .text "Æ"), (.text "Aacute", .text "Á"), (.text "Acirc", .text "Â"),
        (.text "Agrave", .text "À"), (.text "Alpha", .text "Α"), (.text "Aring", .text "Å")]),
    ("html.entities.html5",
      .map [(.text "Aacute", .text "Á"), (.text "aacute", .text "á"), (.text "Aacute;", .text "Á"),
        (.text "aacute;", .text "á"), (.text "Abreve;", .text "Ă"), (.text "abreve;", .text "ă")]),
    ("html.entities.name2codepoint",
      .map [(.text "AElig", .int 198), (.text "Aacute", .int 193), (.text "Acirc", .int 194),
        (.text "Agrave", .int 192), (.text "Alpha", .int 913), (.text "Aring", .int 197)]),
    ("importlib.__all__", words .list ["__import__ import_module invalidate_caches reload"]),
    ("importlib.abc.__all__",
      words .list ["Loader Finder MetaPathFinder PathEntryFinder ResourceLoader InspectLoader",
        "ExecutionLoader FileLoader SourceLoader ResourceReader Traversable", "TraversableResources"]),
    ("importlib.machinery.BYTECODE_SUFFIXES", words .list [".pyc"]),
    ("importlib.machinery.DEBUG_BYTECODE_SUFFIXES", words .list [".pyc"]),
    ("importlib.machinery.EXTENSION_SUFFIXES",
      words .list [".cpython-311-x86_64-linux-gnu.so .abi3.so .so"]),
    ("importlib.machinery.OPTIMIZED_BYTECODE_SUFFIXES", words .list [".pyc"]),
    ("importlib.machinery.SOURCE_SUFFIXES", words .list [".py"]),
    ("importlib.metadata.__all__",
      words .list ["Distribution DistributionFinder PackageMetadata PackageNotFoundError distribution",
        "distributions entry_points files metadata packages_distributions requires version"]),
    ("inspect.CORO_CLOSED", .text "CORO_CLOSED"),
    ("inspect.CORO_CREATED", .text "CORO_CREATED"),
    ("inspect.CORO_RUNNING", .text "CORO_RUNNING"),
    ("inspect.CORO_SUSPENDED", .text "CORO_SUSPENDED"),
    ("inspect.GEN_CLOSED", .text "GEN_CLOSED"),
    ("inspect.GEN_CREATED", .text "GEN_CREATED"),
    ("inspect.GEN_RUNNING", .text "GEN_RUNNING"),
    ("inspect.GEN_SUSPENDED", .text "GEN_SUSPENDED"),
    ("inspect.__all__",
      words .list ["ArgInfo Arguments Attribute BlockFinder BoundArguments CORO_CLOSED CORO_CREATED",
        "CORO_RUNNING CORO_SUSPENDED CO_ASYNC_GENERATOR CO_COROUTINE CO_GENERATOR",
        "CO_ITERABLE_COROUTINE CO_NESTED CO_NEWLOCALS CO_NOFREE CO_OPTIMIZED CO_VARARGS",
        "CO_VARKEYWORDS ClassFoundException ClosureVars EndOfBlock FrameInfo FullArgSpec",
        "GEN_CLOSED GEN_CREATED GEN_RUNNING GEN_SUSPENDED Parameter Signature",
        "TPFLAGS_IS_ABSTRACT Traceback classify_class_attrs cleandoc currentframe findsource"]),
    ("inspect.__author__",
      .sequence .tuple [.text "Ka-Ping Yee <ping@lfw.org>",
        .text "Yury Selivanov <yselivanov@sprymix.com>"]),
    ("inspect.modulesbyfile", .map [(.text "", .null)]),
    ("io.__all__",
      words .list ["BlockingIOError open open_code IOBase RawIOBase FileIO BytesIO StringIO",
        "BufferedIOBase BufferedReader BufferedWriter BufferedRWPair BufferedRandom",
        "TextIOBase TextIOWrapper UnsupportedOperation SEEK_SET SEEK_CUR SEEK_END",
        "DEFAULT_BUFFER_SIZE text_encoding IncrementalNewlineDecoder"]),
    ("io.__author__",
      .text ("Guido van Rossum <guido@python.org>, Mike Verdone <mike.verd" ++
        "one@gmail.com>, Mark Russell <mark.russell@zen.co.uk>, Antoi" ++
        "ne Pitrou <solipsis@pitrou.net>, Amaury Forgeot d'Arc <amaur" ++
        "yfa@gmail.com>, Benjamin Peterson <benjamin@python.org>")),
    ("ipaddress.__version__", .text "1.0"),
    ("json.__all__", words .list ["dump dumps load loads JSONDecoder JSONDecodeError JSONEncoder"]),
    ("json.__author__", .text "Bob Ippolito <bob@redivi.com>"),
    ("json.__version__", .text "2.0.9"),
    ("json.decoder.BACKSLASH",
      .map [(.text "\"", .text "\""), (.text "\\", .text "\\"), (.text "/", .text "/"), (.text "b",
        .text "\x08"), (.text "f", .text "\x0c"), (.text "n", .text "\n")]),
    ("json.decoder.NaN", .float (0 / 0)),
    ("json.decoder.NegInf", .float (-1 / 0)),
    ("json.decoder.PosInf", .float (1 / 0)),
    ("json.decoder.WHITESPACE_STR", .text " \t\n\r"),
    ("json.decoder.__all__", words .list ["JSONDecoder JSONDecodeError"]),
    ("json.encoder.ESCAPE_DCT",
      .map [(.text "\\", .text "\\\\"), (.text "\"", .text "\\\""), (.text "\x08", .text "\\b"),
        (.text "\x0c", .text "\\f"), (.text "\n", .text "\\n"), (.text "\r", .text "\\r")]),
    ("json.encoder.INFINITY", .float (1 / 0)),
    ("json.scanner.__all__", words .list ["make_scanner"]),
    ("keyword.__all__", words .list ["iskeyword issoftkeyword kwlist softkwlist"]),
    ("keyword.kwlist",
      words .list ["False None True and as assert async await break class continue def del elif else",
        "except finally for from global if import in is lambda nonlocal not or pass raise",
        "return try while with yield"]),
    ("keyword.softkwlist", words .list ["_ case match"]),
    ("linecache.__all__", words .list ["getline clearcache checkcache lazycache"]),
    ("linecache.cache", .map [(.text "", .null)]),
    ("locale.__all__",
      words .list ["getlocale getdefaultlocale getpreferredencoding Error setlocale resetlocale",
        "localeconv strcoll strxfrm str atof atoi format format_string currency normalize",
        "LC_CTYPE LC_COLLATE LC_TIME LC_MONETARY LC_NUMERIC LC_ALL CHAR_MAX getencoding",
        "LC_MESSAGES"]),
    ("locale.locale_alias",
      .map [(.text "a3", .text "az_AZ.KOI8-C"), (.text "a3_az", .text "az_AZ.KOI8-C"),
        (.text "a3_az.koic", .text "az_AZ.KOI8-C"), (.text "aa_dj", .text "aa_DJ.ISO8859-1"),
        (.text "aa_er", .text "aa_ER.UTF-8"), (.text "aa_et", .text "aa_ET.UTF-8")]),
    ("locale.locale_encoding_alias",
      .map [(.text "437", .text "C"), (.text "c", .text "C"), (.text "en", .text "ISO8859-1"),
        (.text "jis", .text "JIS7"), (.text "jis7", .text "JIS7"), (.text "ajec", .text "eucJP")]),
    ("locale.windows_locale",
      .map [(.int 1078, .text "af_ZA"), (.int 1052, .text "sq_AL"), (.int 1156, .text "gsw_FR"),
        (.int 1118, .text "am_ET"), (.int 1025, .text "ar_SA"), (.int 2049, .text "ar_IQ")]),
    ("logging.BASIC_FORMAT", .text "%(levelname)s:%(name)s:%(message)s"),
    ("logging.__all__",
      words .list ["BASIC_FORMAT BufferingFormatter CRITICAL DEBUG ERROR FATAL FileHandler Filter",
        "Formatter Handler INFO LogRecord Logger LoggerAdapter NOTSET NullHandler",
        "StreamHandler WARN WARNING addLevelName basicConfig captureWarnings critical debug",
        "disable error exception fatal getLevelName getLogger getLoggerClass info log",
        "makeLogRecord setLoggerClass shutdown"]),
    ("logging.__author__", .text "Vinay Sajip <vinay_sajip@red-dove.com>"),
    ("logging.__date__", .text "07 February 2010"),
    ("logging.__version__", .text "0.5.1.2"),
    ("logging.logMultiprocessing", .bool true),
    ("logging.logProcesses", .bool true),
    ("logging.logThreads", .bool true),
    ("logging.raiseExceptions", .bool true),
    ("lzma.__all__",
      words .list ["CHECK_NONE CHECK_CRC32 CHECK_CRC64 CHECK_SHA256 CHECK_ID_MAX CHECK_UNKNOWN",
        "FILTER_LZMA1 FILTER_LZMA2 FILTER_DELTA FILTER_X86 FILTER_IA64 FILTER_ARM",
        "FILTER_ARMTHUMB FILTER_POWERPC FILTER_SPARC FORMAT_AUTO FORMAT_XZ FORMAT_ALONE",
        "FORMAT_RAW MF_HC3 MF_HC4 MF_BT2 MF_BT3 MF_BT4 MODE_FAST MODE_NORMAL PRESET_DEFAULT",
        "PRESET_EXTREME LZMACompressor LZMADecompressor LZMAFile LZMAError open compress",
        "decompress is_check_supported"]),
    ("math.e", .float 2.718281828459045),
    ("math.inf", .float (1 / 0)),
    ("math.nan", .float (0 / 0)),
    ("math.pi", .float 3.141592653589793),
    ("math.tau", .float 6.283185307179586),
    ("numbers.__all__", words .list ["Number Complex Real Rational Integral"]),
    ("operator.__all__",
      words .list ["abs add and_ attrgetter call concat contains countOf delitem eq floordiv ge getitem",
        "gt iadd iand iconcat ifloordiv ilshift imatmul imod imul index indexOf inv invert",
        "ior ipow irshift is_ is_not isub itemgetter itruediv ixor le"]),
    ("os.__all__",
      words .list ["altsep curdir pardir sep pathsep linesep defpath name path devnull SEEK_SET SEEK_CUR",
        "SEEK_END fsencode fsdecode get_exec_path fdopen extsep _exit CLD_CONTINUED",
        "CLD_DUMPED CLD_EXITED CLD_KILLED CLD_STOPPED CLD_TRAPPED DirEntry EFD_CLOEXEC",
        "EFD_NONBLOCK EFD_SEMAPHORE EX_CANTCREAT EX_CONFIG EX_DATAERR EX_IOERR EX_NOHOST",
        "EX_NOINPUT EX_NOPERM"]),
    ("os.altsep", .null),
    ("os.confstr_names",
      .map [(.text "CS_GNU_LIBC_VERSION", .int 2), (.text "CS_GNU_LIBPTHREAD_VERSION", .int 3),
        (.text "CS_LFS64_CFLAGS", .int 1004), (.text "CS_LFS64_LDFLAGS", .int 1005),
        (.text "CS_LFS64_LIBS", .int 1006), (.text "CS_LFS64_LINTFLAGS", .int 1007)]),
    ("os.curdir", .text "."),
    ("os.defpath", .text "/bin:/usr/bin"),
    ("os.devnull", .text "/dev/null"),
    ("os.extsep", .text "."),
    ("os.linesep", .text "\n"),
    ("os.name", .text "posix"),
    ("os.pardir", .text ".."),
    ("os.pathconf_names",
      .map [(.text "PC_ALLOC_SIZE_MIN", .int 18), (.text "PC_ASYNC_IO", .int 10),
        (.text "PC_CHOWN_RESTRICTED", .int 6), (.text "PC_FILESIZEBITS", .int 13), (.text "PC_LINK_MAX",
        .int 0), (.text "PC_MAX_CANON", .int 1)]),
    ("os.pathsep", .text ":"),
    ("os.sep", .text "/"),
    ("os.supports_bytes_environ", .bool true),
    ("os.supports_dir_fd",
      .sequence .set [.foreign "builtin_function_or_method", .foreign "builtin_function_or_method",
        .foreign "builtin_function_or_method", .foreign "builtin_function_or_method",
        .foreign "builtin_function_or_method", .foreign "builtin_function_or_method",
        .foreign "builtin_function_or_method", .foreign "builtin_function_or_method",
        .foreign "builtin_function_or_method", .foreign "builtin_function_or_method",
        .foreign "builtin_function_or_method", .foreign "builtin_function_or_method",
        .foreign "builtin_function_or_method", .foreign "builtin_function_or_method",
        .foreign "builtin_function_or_method"]),
    ("os.supports_effective_ids", .sequence .set [.foreign "builtin_function_or_method"]),
    ("os.supports_fd",
      .sequence .set [.foreign "builtin_function_or_method", .foreign "builtin_function_or_method",
        .foreign "builtin_function_or_method", .foreign "builtin_function_or_method",
        .foreign "builtin_function_or_method", .foreign "builtin_function_or_method",
        .foreign "builtin_function_or_method", .foreign "builtin_function_or_method",
        .foreign "builtin_function_or_method", .foreign "builtin_function_or_method",
        .foreign "builtin_function_or_method"]),
    ("os.supports_follow_symlinks",
      .sequence .set [.foreign "builtin_function_or_method", .foreign "builtin_function_or_method",
        .foreign "builtin_function_or_method", .foreign "builtin_function_or_method",
        .foreign "builtin_function_or_method"]),
    ("os.sysconf_names",
      .map [(.text "SC_2_CHAR_TERM", .int 95), (.text "SC_2_C_BIND", .int 47), (.text "SC_2_C_DEV",
        .int 48), (.text "SC_2_C_VERSION", .int 96), (.text "SC_2_FORT_DEV", .int 49),
        (.text "SC_2_FORT_RUN", .int 50)]),
    ("pathlib.__all__",
      words .list ["PurePath PurePosixPath PureWindowsPath Path PosixPath WindowsPath"]),
    ("platform.__version__", .text "1.0.8"),
    ("posixpath.__all__",
      words .list ["normcase isabs join splitdrive split splitext basename dirname commonprefix getsize",
        "getmtime getatime getctime islink exists lexists isdir isfile ismount expanduser",
        "expandvars normpath abspath samefile sameopenfile samestat curdir pardir sep pathsep",
        "defpath altsep extsep devnull realpath supports_unicode_filenames"]),
    ("posixpath.altsep", .null),
    ("posixpath.curdir", .text "."),
    ("posixpath.defpath", .text "/bin:/usr/bin"),
    ("posixpath.devnull", .text "/dev/null"),
    ("posixpath.extsep", .text "."),
    ("posixpath.pardir", .text ".."),
    ("posixpath.pathsep", .text ":"),
    ("posixpath.sep", .text "/"),
    ("posixpath.supports_unicode_filenames", .bool false),
    ("queue.__all__", words .list ["Empty Full Queue PriorityQueue LifoQueue SimpleQueue"]),
    ("random.LOG4", .float 1.3862943611198906),
    ("random.NV_MAGICCONST", .float 1.7155277699214135),
    ("random.RECIP_BPF", .float 1.1102230246251565e-16),
    ("random.SG_MAGICCONST", .float 2.504077396776274),
    ("random.TWOPI", .float 6.283185307179586),
    ("random.__all__",
      words .list ["Random SystemRandom betavariate choice choices expovariate gammavariate gauss",
        "getrandbits getstate lognormvariate normalvariate paretovariate randbytes randint",
        "random randrange sample seed setstate shuffle triangular uniform vonmisesvariate",
        "weibullvariate"]),
    ("re.__all__",
      words .list ["match fullmatch search sub subn split findall finditer compile purge template escape",
        "error Pattern Match A I L M S X U ASCII IGNORECASE LOCALE MULTILINE DOTALL VERBOSE",
        "UNICODE NOFLAG RegexFlag"]),
    ("re.__version__", .text "2.2.1"),
    ("reprlib.__all__", words .list ["Repr repr recursive_repr"]),
    ("shlex.__all__", words .list ["shlex split quote join"]),
    ("shutil.__all__",
      words .list ["copyfileobj copyfile copymode copystat copy copy2 copytree move rmtree Error",
        "SpecialFileError ExecError make_archive get_archive_formats register_archive_format",
        "unregister_archive_format get_unpack_formats register_unpack_format",
        "unregister_unpack_format unpack_archive ignore_patterns chown which",
        "get_terminal_size SameFileError disk_usage"]),
    ("shutil.nt", .null),
    ("socket.__all__",
      words .list ["fromfd getfqdn create_connection create_server has_dualstack_ipv6 AddressFamily",
        "SocketKind AF_ALG AF_APPLETALK AF_ASH AF_ATMPVC AF_ATMSVC AF_AX25 AF_BRIDGE AF_CAN",
        "AF_DECnet AF_ECONET AF_INET AF_INET6 AF_IPX AF_IRDA AF_KEY AF_LLC AF_NETBEUI",
        "AF_NETLINK AF_NETROM AF_PACKET AF_PPPOX AF_RDS AF_ROSE AF_ROUTE AF_SECURITY AF_SNA",
        "AF_TIPC AF_UNIX AF_UNSPEC"]),
    ("socket.has_ipv6", .bool true),
    ("ssl.CHANNEL_BINDING_TYPES", words .list ["tls-unique"]),
    ("ssl.HAS_ALPN", .bool true),
    ("ssl.HAS_ECDH", .bool true),
    ("ssl.HAS_NEVER_CHECK_COMMON_NAME", .bool true),
    ("ssl.HAS_NPN", .bool false),
    ("ssl.HAS_SNI", .bool true),
    ("ssl.HAS_SSLv2", .bool false),
    ("ssl.HAS_SSLv3", .bool false),
    ("ssl.HAS_TLSv1", .bool true),
    ("ssl.HAS_TLSv1_1", .bool true),
    ("ssl.HAS_TLSv1_2", .bool true),
    ("ssl.HAS_TLSv1_3", .bool true),
    ("ssl.PEM_FOOTER", .text "-----END CERTIFICATE-----"),
    ("ssl.PEM_HEADER", .text "-----BEGIN CERTIFICATE-----"),
    ("string.__all__",
      words .list ["ascii_letters ascii_lowercase ascii_uppercase capwords digits hexdigits octdigits",
        "printable punctuation whitespace Formatter Template"]),
    ("string.ascii_letters", .text "abcdefghijklmnopqrstuvwxyzABCDEFGHIJKLMNOPQRSTUVWXYZ"),
    ("string.ascii_lowercase", .text "abcdefghijklmnopqrstuvwxyz"),
    ("string.ascii_uppercase", .text "ABCDEFGHIJKLMNOPQRSTUVWXYZ"),
    ("string.digits", .text "0123456789"),
    ("string.hexdigits", .text "0123456789abcdefABCDEF"),
    ("string.octdigits", .text "01234567"),
    ("string.printable",
      .text ("0123456789abcdefghijklmnopqrstuvwxyzABCDEFGHIJKLMNOPQRSTUVWX" ++
        "YZ!\"#$%&'()*+,-./:;<=>?@[\\]^_\x60\x7b|\x7d~ \t\n\r\x0b\x0c")),
    ("string.punctuation", .text "!\"#$%&'()*+,-./:;<=>?@[\\]^_\x60\x7b|\x7d~"),
    ("string.whitespace", .text " \t\n\r\x0b\x0c"),
    ("struct.__all__",
      words .list ["calcsize pack pack_into unpack unpack_from iter_unpack Struct error"]),
    ("subprocess.__all__",
      words .list ["Popen PIPE STDOUT call check_call getstatusoutput getoutput check_output run",
        "CalledProcessError DEVNULL SubprocessError TimeoutExpired CompletedProcess"]),
    ("sys.argv", .sequence .list [.text "", .text "", .text ""]),
    ("sys.builtin_module_names",
      words .tuple ["_abc _ast _asyncio _bisect _blake2 _bz2 _codecs _codecs_cn _codecs_hk",
        "_codecs_iso2022 _codecs_jp _codecs_kr _codecs_tw _collections _contextvars _csv",
        "_ctypes _ctypes_test _curses _curses_panel _datetime _dbm _decimal _elementtree",
        "_functools _hashlib _heapq _imp _io _json _locale _lsprof _lzma _md5 _multibytecodec",
        "_multiprocessing"]),
    ("sys.byteorder", .text "little"),
    ("sys.float_repr_style", .text "short"),
    ("sys.meta_path",
      .sequence .list [.foreign "DistutilsMetaFinder", .foreign "type", .foreign "type",
        .foreign "type"]),
    ("sys.modules", .map [(.text "sys", .null)]),
    ("sys.orig_argv", .sequence .list [.text "", .text "", .text ""]),
    ("sys.path", .sequence .list [.text "", .text "", .text "", .text "", .text ""]),
    ("sys.path_hooks", .sequence .list [.foreign "type", .foreign "function"]),
    ("sys.path_importer_cache", .map [(.text "", .null)]),
    ("sys.platform", .text "linux"),
    ("sys.platlibdir", .text "lib"),
    ("sys.stdlib_module_names",
      words .set ["__future__ _abc _aix_support _ast _asyncio _bisect _blake2 _bootsubprocess _bz2",
        "_codecs _codecs_cn _codecs_hk _codecs_iso2022 _codecs_jp _codecs_kr _codecs_tw",
        "_collections _collections_abc _compat_pickle _compression _contextvars _crypt _csv",
        "_ctypes _curses _curses_panel _datetime _dbm _decimal _elementtree _frozen_importlib",
        "_frozen_importlib_external _functools _gdbm _hashlib _heapq"]),
    ("sys.warnoptions", .sequence .list []),
    ("tempfile.__all__",
      words .list ["NamedTemporaryFile TemporaryFile SpooledTemporaryFile TemporaryDirectory mkstemp",
        "mkdtemp mktemp TMP_MAX gettempprefix tempdir gettempdir gettempprefixb gettempdirb"]),
    ("tempfile.template", .text "tmp"),
    ("textwrap.__all__", words .list ["TextWrapper wrap fill dedent indent shorten"]),
    ("threading.TIMEOUT_MAX", .float 9223372036.0),
    ("threading.__all__",
      words .list ["get_ident active_count Condition current_thread enumerate main_thread TIMEOUT_MAX",
        "Event Lock RLock Semaphore BoundedSemaphore Thread Barrier BrokenBarrierError Timer",
        "ThreadError setprofile settrace local stack_size excepthook ExceptHookArgs gettrace",
        "getprofile get_native_id"]),
    ("time.tzname", words .tuple ["UTC UTC"]),
    ("token.EXACT_TOKEN_TYPES",
      .map [(.text "!=", .int 28), (.text "%", .int 24), (.text "%=", .int 40), (.text "&", .int 19),
        (.text "&=", .int 41), (.text "(", .int 7)]),
    ("token.__all__",
      words .list ["tok_name ISTERMINAL ISNONTERMINAL ISEOF ENDMARKER NAME NUMBER STRING NEWLINE INDENT",
        "DEDENT LPAR RPAR LSQB RSQB COLON COMMA SEMI PLUS MINUS STAR SLASH VBAR AMPER LESS",
        "GREATER EQUAL DOT PERCENT LBRACE RBRACE EQEQUAL NOTEQUAL LESSEQUAL GREATEREQUAL", "TILDE"]),
    ("token.tok_name",
      .map [(.int 0, .text "ENDMARKER"), (.int 1, .text "NAME"), (.int 2, .text "NUMBER"), (.int 3,
        .text "STRING"), (.int 4, .text "NEWLINE"), (.int 5, .text "INDENT")]),
    ("tokenize.BOM_UTF8", .bytes [0xEF, 0xBB, 0xBF]),
    ("tokenize.Binnumber", .text "0[bB](?:_?[01])+"),
    ("tokenize.Comment", .text "#[^\\r\\n]*"),
    ("tokenize.ContStr",
      .text ("((|Rb|F|Fr|FR|Br|r|U|rF|u|R|fr|BR|rf|rB|Rf|rb|br|RB|fR|RF|b|" ++
        "bR|B|f)'[^\\n'\\\\]*(?:\\\\.[^\\n'\\\\]*)*('|\\\\\\r?\\n)|(|Rb|F|Fr|FR|B" ++
        "r|r|U|rF|u|R|fr|BR|rf|rB|Rf|rb|br|RB|fR|RF|b|bR|B|f)\"[^\\n\"\\\\" ++
        "]*(?:\\\\.[^\\n\"\\\\]*)*(\"|\\\\\\r?\\n))")),
    ("tokenize.Decnumber", .text "(?:0(?:_?0)*|[1-9](?:_?[0-9])*)"),
    ("tokenize.Double", .text "[^\"\\\\]*(?:\\\\.[^\"\\\\]*)*\""),
    ("tokenize.Double3", .text "[^\"\\\\]*(?:(?:\\\\.|\"(?!\"\"))[^\"\\\\]*)*\"\"\""),
    ("tokenize.EXACT_TOKEN_TYPES",
      .map [(.text "!=", .int 28), (.text "%", .int 24), (.text "%=", .int 40), (.text "&", .int 19),
        (.text "&=", .int 41), (.text "(", .int 7)]),
    ("tokenize.Expfloat", .text "[0-9](?:_?[0-9])*[eE][-+]?[0-9](?:_?[0-9])*"),
    ("tokenize.Exponent", .text "[eE][-+]?[0-9](?:_?[0-9])*"),
    ("tokenize.Floatnumber",
      .text ("(([0-9](?:_?[0-9])*\\.(?:[0-9](?:_?[0-9])*)?|\\.[0-9](?:_?[0-9" ++
        "])*)([eE][-+]?[0-9](?:_?[0-9])*)?|[0-9](?:_?[0-9])*[eE][-+]?" ++ "[0-9](?:_?[0-9])*)")),
    ("tokenize.Funny",
      .text ("(\\r?\\n|(\\~|\\\x7d|\\|=|\\||\\\x7b|\\^=|\\^|\\]|\\[|@=|@|>>=|>>|>=|>|==|=|<" ++
        "=|<<=|<<|<|;|:=|:|/=|//=|//|/|\\.\\.\\.|\\.|\\->|\\-=|\\-|,|\\+=|\\+|" ++
        "\\*=|\\*\\*=|\\*\\*|\\*|\\)|\\(|\\&=|\\&|%=|%|!=))")),
    ("tokenize.Hexnumber", .text "0[xX](?:_?[0-9a-fA-F])+"),
    ("tokenize.Ignore", .text "[ \\f\\t]*(\\\\\\r?\\n[ \\f\\t]*)*(#[^\\r\\n]*)?"),
    ("tokenize.Imagnumber",
      .text ("([0-9](?:_?[0-9])*[jJ]|(([0-9](?:_?[0-9])*\\.(?:[0-9](?:_?[0-" ++
        "9])*)?|\\.[0-9](?:_?[0-9])*)([eE][-+]?[0-9](?:_?[0-9])*)?|[0-" ++
        "9](?:_?[0-9])*[eE][-+]?[0-9](?:_?[0-9])*)[jJ])")),
    ("tokenize.Intnumber",
      .text ("(0[xX](?:_?[0-9a-fA-F])+|0[bB](?:_?[01])+|0[oO](?:_?[0-7])+|" ++
        "(?:0(?:_?0)*|[1-9](?:_?[0-9])*))")),
    ("tokenize.Name", .text "\\w+"),
    ("tokenize.Number",
      .text ("(([0-9](?:_?[0-9])*[jJ]|(([0-9](?:_?[0-9])*\\.(?:[0-9](?:_?[0" ++
        "-9])*)?|\\.[0-9](?:_?[0-9])*)([eE][-+]?[0-9](?:_?[0-9])*)?|[0" ++
        "-9](?:_?[0-9])*[eE][-+]?[0-9](?:_?[0-9])*)[jJ])|(([0-9](?:_?" ++
        "[0-9])*\\.(?:[0-9](?:_?[0-9])*)?|\\.[0-9](?:_?[0-9])*)([eE][-+" ++
        "]?[0-9](?:_?[0-9])*)?|[0-9](?:_?[0-9])*[eE][-+]?[0-9](?:_?[0" ++
        "-9])*)|(0[xX](?:_?[0-9a-fA-F])+|0[bB](?:_?[01])+|0[oO](?:_?[" ++
        "0-7])+|(?:0(?:_?0)*|[1-9](?:_?[0-9])*)))")),
    ("tokenize.Octnumber", .text "0[oO](?:_?[0-7])+"),
    ("tokenize.Pointfloat",
      .text ("([0-9](?:_?[0-9])*\\.(?:[0-9](?:_?[0-9])*)?|\\.[0-9](?:_?[0-9]" ++
        ")*)([eE][-+]?[0-9](?:_?[0-9])*)?")),
    ("tokenize.PseudoExtras",
      .text ("(\\\\\\r?\\n|\\Z|#[^\\r\\n]*|((|Rb|F|Fr|FR|Br|r|U|rF|u|R|fr|BR|rf|r" ++
        "B|Rf|rb|br|RB|fR|RF|b|bR|B|f)'''|(|Rb|F|Fr|FR|Br|r|U|rF|u|R|" ++
        "fr|BR|rf|rB|Rf|rb|br|RB|fR|RF|b|bR|B|f)\"\"\"))")),
    ("tokenize.Single", .text "[^'\\\\]*(?:\\\\.[^'\\\\]*)*'"),
    ("tokenize.Single3", .text "[^'\\\\]*(?:(?:\\\\.|'(?!''))[^'\\\\]*)*'''"),
    ("tokenize.Special",
      .text ("(\\~|\\\x7d|\\|=|\\||\\\x7b|\\^=|\\^|\\]|\\[|@=|@|>>=|>>|>=|>|==|=|<=|<<=|<" ++
        "<|<|;|:=|:|/=|//=|//|/|\\.\\.\\.|\\.|\\->|\\-=|\\-|,|\\+=|\\+|\\*=|\\*\\" ++
        "*=|\\*\\*|\\*|\\)|\\(|\\&=|\\&|%=|%|!=)")),
    ("tokenize.String",
      .text ("((|Rb|F|Fr|FR|Br|r|U|rF|u|R|fr|BR|rf|rB|Rf|rb|br|RB|fR|RF|b|" ++
        "bR|B|f)'[^\\n'\\\\]*(?:\\\\.[^\\n'\\\\]*)*'|(|Rb|F|Fr|FR|Br|r|U|rF|u" ++
        "|R|fr|BR|rf|rB|Rf|rb|br|RB|fR|RF|b|bR|B|f)\"[^\\n\"\\\\]*(?:\\\\.[^" ++ "\\n\"\\\\]*)*\")")),
    ("tokenize.StringPrefix",
      .text ("(|Rb|F|Fr|FR|Br|r|U|rF|u|R|fr|BR|rf|rB|Rf|rb|br|RB|fR|RF|b|b" ++ "R|B|f)")),
    ("tokenize.Triple",
      .text ("((|Rb|F|Fr|FR|Br|r|U|rF|u|R|fr|BR|rf|rB|Rf|rb|br|RB|fR|RF|b|" ++
        "bR|B|f)'''|(|Rb|F|Fr|FR|Br|r|U|rF|u|R|fr|BR|rf|rB|Rf|rb|br|R" ++ "B|fR|RF|b|bR|B|f)\"\"\")")),
    ("tokenize.Whitespace", .text "[ \\f\\t]*"),
    ("tokenize.__all__",
      words .list ["tok_name ISTERMINAL ISNONTERMINAL ISEOF ENDMARKER NAME NUMBER STRING NEWLINE INDENT",
        "DEDENT LPAR RPAR LSQB RSQB COLON COMMA SEMI PLUS MINUS STAR SLASH VBAR AMPER LESS",
        "GREATER EQUAL DOT PERCENT LBRACE RBRACE EQEQUAL NOTEQUAL LESSEQUAL GREATEREQUAL", "TILDE"]),
    ("tokenize.__author__", .text "Ka-Ping Yee <ping@lfw.org>"),
    ("tokenize.__credits__",
      .text ("GvR, ESR, Tim Peters, Thomas Wouters, Fred Drake, Skip Monta" ++
        "naro, Raymond Hettinger, Trent Nelson, Michael Foord")),
    ("tokenize.endpats",
      .map [(.text "'", .text "[^'\\\\]*(?:\\\\.[^'\\\\]*)*'"), (.text "\"",
        .text "[^\"\\\\]*(?:\\\\.[^\"\\\\]*)*\""), (.text "'''",
        .text "[^'\\\\]*(?:(?:\\\\.|'(?!''))[^'\\\\]*)*'''"), (.text "\"\"\"",
        .text "[^\"\\\\]*(?:(?:\\\\.|\"(?!\"\"))[^\"\\\\]*)*\"\"\""), (.text "Rb'",
        .text "[^'\\\\]*(?:\\\\.[^'\\\\]*)*'"), (.text "Rb\"",
        .text "[^\"\\\\]*(?:\\\\.[^\"\\\\]*)*\"")]),
    ("tokenize.single_quoted",
      words .set ["' B' BR' Br' F' FR' Fr' R' RB' RF' Rb' Rf' U' b' bR' br' f' fR' fr' r' rB' rF' rb'",
        "rf' u' \" B\" BR\" Br\" F\" FR\" Fr\" R\" RB\" RF\" Rb\""]),
    ("tokenize.tok_name",
      .map [(.int 0, .text "ENDMARKER"), (.int 1, .text "NAME"), (.int 2, .text "NUMBER"), (.int 3,
        .text "STRING"), (.int 4, .text "NEWLINE"), (.int 5, .text "INDENT")]),
    ("tokenize.triple_quoted",
      words .set ["''' B''' BR''' Br''' F''' FR''' Fr''' R''' RB''' RF''' Rb''' Rf''' U''' b''' bR'''",
        "br''' f''' fR''' fr''' r''' rB''' rF''' rb''' rf''' u''' \"\"\" B\"\"\" BR\"\"\" Br\"\"\" F\"\"\"",
        "FR\"\"\" Fr\"\"\" R\"\"\" RB\"\"\" RF\"\"\" Rb\"\"\""]),
    ("traceback.__all__",
      words .list ["extract_stack extract_tb format_exception format_exception_only format_list",
        "format_stack format_tb print_exc format_exc print_exception print_last print_stack",
        "print_tb clear_frames FrameSummary StackSummary TracebackException walk_stack", "walk_tb"]),
    ("types.__all__",
      words .list ["FunctionType LambdaType CodeType MappingProxyType SimpleNamespace CellType",
        "GeneratorType CoroutineType AsyncGeneratorType MethodType BuiltinFunctionType",
        "BuiltinMethodType WrapperDescriptorType MethodWrapperType MethodDescriptorType",
        "ClassMethodDescriptorType ModuleType TracebackType FrameType GetSetDescriptorType",
        "MemberDescriptorType new_class resolve_bases prepare_class DynamicClassAttribute",
        "coroutine GenericAlias UnionType EllipsisType NoneType NotImplementedType"]),
    ("typing.TYPE_CHECKING", .bool false),
    ("typing.__all__",
      words .list ["Annotated Any Callable ClassVar Concatenate Final ForwardRef Generic Literal",
        "Optional ParamSpec Protocol Tuple Type TypeVar TypeVarTuple Union AbstractSet",
        "ByteString Container ContextManager Hashable ItemsView Iterable Iterator KeysView",
        "Mapping MappingView MutableMapping MutableSequence MutableSet Sequence Sized",
        "ValuesView Awaitable AsyncIterator"]),
    ("unicodedata.unidata_version", .text "14.0.0"),
    ("urllib.parse.__all__",
      words .list ["urlparse urlunparse urljoin urldefrag urlsplit urlunsplit urlencode parse_qs",
        "parse_qsl quote quote_plus quote_from_bytes unquote unquote_plus unquote_to_bytes",
        "DefragResult ParseResult SplitResult DefragResultBytes ParseResultBytes", "SplitResultBytes"]),
    ("urllib.parse.non_hierarchical",
      words .list ["gopher hdl mailto news telnet wais imap snews sip sips"]),
    ("urllib.parse.scheme_chars",
      .text ("abcdefghijklmnopqrstuvwxyzABCDEFGHIJKLMNOPQRSTUVWXYZ01234567" ++ "89+-.")),
    ("urllib.parse.uses_fragment",
      .sequence .list [.text "", .text "ftp", .text "hdl", .text "http", .text "gopher", .text "news",
        .text "nntp", .text "wais", .text "https", .text "shttp", .text "snews", .text "file",
        .text "prospero"]),
    ("urllib.parse.uses_netloc",
      .sequence .list [.text "", .text "ftp", .text "http", .text "gopher", .text "nntp",
        .text "telnet", .text "imap", .text "wais", .text "file", .text "mms", .text "https",
        .text "shttp", .text "snews", .text "prospero", .text "rtsp", .text "rtsps", .text "rtspu",
        .text "rsync", .text "svn", .text "svn+ssh", .text "sftp", .text "nfs", .text "git",
        .text "git+ssh", .text "ws", .text "wss"]),
    ("urllib.parse.uses_params",
      .sequence .list [.text "", .text "ftp", .text "hdl", .text "prospero", .text "http", .text "imap",
        .text "https", .text "shttp", .text "rtsp", .text "rtsps", .text "rtspu", .text "sip",
        .text "sips", .text "mms", .text "sftp", .text "tel"]),
    ("urllib.parse.uses_query",
      .sequence .list [.text "", .text "http", .text "wais", .text "imap", .text "https", .text "shttp",
        .text "mms", .text "gopher", .text "rtsp", .text "rtsps", .text "rtspu", .text "sip",
        .text "sips"]),
    ("urllib.parse.uses_relative",
      .sequence .list [.text "", .text "ftp", .text "http", .text "gopher", .text "nntp", .text "imap",
        .text "wais", .text "file", .text "https", .text "shttp", .text "mms", .text "prospero",
        .text "rtsp", .text "rtsps", .text "rtspu", .text "sftp", .text "svn", .text "svn+ssh",
        .text "ws", .text "wss"]),
    ("uuid.RESERVED_FUTURE", .text "reserved for future definition"),
    ("uuid.RESERVED_MICROSOFT", .text "reserved for Microsoft compatibility"),
    ("uuid.RESERVED_NCS", .text "reserved for NCS compatibility"),
    ("uuid.RFC_4122", .text "specified in RFC 4122"),
    ("uuid.__author__", .text "Ka-Ping Yee <ping@zesty.ca>"),
    ("warnings.__all__",
      words .list ["warn warn_explicit showwarning formatwarning filterwarnings simplefilter",
        "resetwarnings catch_warnings"]),
    ("warnings.defaultaction", .text "default"),
    ("warnings.filters",
      .sequence .list [.sequence .tuple [.text "default", .null, .foreign "type", .text "__main__",
        .int 0], .sequence .tuple [.text "ignore", .null, .foreign "type", .null, .int 0],
        .sequence .tuple [.text "ignore", .null, .foreign "type", .null, .int 0],
        .sequence .tuple [.text "ignore", .null, .foreign "type", .null, .int 0],
        .sequence .tuple [.text "ignore", .null, .foreign "type", .null, .int 0]]),
    ("warnings.onceregistry", .map []),
    ("weakref.ProxyTypes", .sequence .tuple [.foreign "type", .foreign "type"]),
    ("weakref.__all__",
      words .list ["ref proxy getweakrefcount getweakrefs WeakKeyDictionary ReferenceType ProxyType",
        "CallableProxyType ProxyTypes WeakValueDictionary WeakSet WeakMethod finalize"]),
    ("zipfile.__all__",
      words .list ["BadZipFile BadZipfile error ZIP_STORED ZIP_DEFLATED ZIP_BZIP2 ZIP_LZMA is_zipfile",
        "ZipInfo ZipFile PyZipFile LargeZipFile Path"]),
    ("zipfile.compressor_names",
      .map [(.int 0, .text "store"), (.int 1, .text "shrink"), (.int 2, .text "reduce"), (.int 3,
        .text "reduce"), (.int 4, .text "reduce"), (.int 5, .text "reduce")]),
    ("zipfile.stringCentralDir", .bytes [0x50, 0x4B, 0x01, 0x02]),
    ("zipfile.stringEndArchive", .bytes [0x50, 0x4B, 0x05, 0x06]),
    ("zipfile.stringEndArchive64", .bytes [0x50, 0x4B, 0x06, 0x06]),
    ("zipfile.stringEndArchive64Locator", .bytes [0x50, 0x4B, 0x06, 0x07]),
    ("zipfile.stringFileHeader", .bytes [0x50, 0x4B, 0x03, 0x04]),
    ("zipfile.structCentralDir", .text "<4s4B4HL2L5H2L"),
    ("zipfile.structEndArchive", .bytes [0x3C, 0x34, 0x73, 0x34, 0x48, 0x32, 0x4C, 0x48]),
    ("zipfile.structEndArchive64", .text "<4sQ2H2L4Q"),
    ("zipfile.structEndArchive64Locator", .text "<4sLQL"),
    ("zipfile.structFileHeader", .text "<4s2B4HL2L2H"),
    ("zlib.__version__", .text "1.0"),
    ("polysdk.__version__", .text "0.1.0"),
    ("polysdk.__all__",
      words .list ["__version__ ApiModel ArrayType IntrinsicType Method Parameter ParamLocation Property",
        "Type ArgumentAssembler CodeFormatter Conventions FileEmitter GeneratedSources",
        "GenerationContext SdkGenerator StringEmitter TypeReferenceResolver get_formatter",
        "GeneratorConfig TargetConfig get_config load_model PolySDKError ModelNotBoundError",
        "TypeNameConflictError ModelLoadError ConfigurationError OutputError",
        "UnsupportedFeatureError"]),
    ("polysdk._version.version", .text "0.1.0"),
    ("polysdk.cli.FORMATTERS",
      .map [(.text "python", .foreign "ABCMeta"), (.text "typescript", .foreign "ABCMeta")]),
    ("polysdk.codegen.__all__",
      words .list ["ArgumentAssembler CodeEmitter CodeFormatter Conventions FORMATTERS FileEmitter",
        "GeneratedSources GenerationContext MappedType SdkGenerator StringEmitter",
        "TypeReferenceResolver WARN_EDITING get_formatter"]),
    ("polysdk.codegen.WARN_EDITING",
      .text "NOTE: Do not edit this source code file. It is generated by polysdk."),
    ("polysdk.codegen.FORMATTERS",
      .map [(.text "python", .foreign "ABCMeta"), (.text "typescript", .foreign "ABCMeta")]),
    ("polysdk.codegen.emitter.METHODS_MODULE", .text "methods"),
    ("polysdk.codegen.emitter.MODELS_MODULE", .text "models"),
    ("polysdk.codegen.formatter.WARN_EDITING",
      .text "NOTE: Do not edit this source code file. It is generated by polysdk."),
    ("polysdk.codegen.languages.FORMATTERS",
      .map [(.text "python", .foreign "ABCMeta"), (.text "typescript", .foreign "ABCMeta")]),
    ("polysdk.codegen.languages.__all__",
      words .list ["FORMATTERS PythonFormatter TypeScriptFormatter get_formatter"]),
    ("polysdk.codegen.languages.python.WARN_EDITING",
      .text "NOTE: Do not edit this source code file. It is generated by polysdk."),
    ("polysdk.codegen.languages.python.MODELS_QUALIFIER", .text "models."),
    ("polysdk.codegen.languages.python.PYTHON_TYPES",
      .map [(.text "any", .text "Any"), (.text "boolean", .text "bool"), (.text "date",
        .text "datetime.date"), (.text "datetime", .text "datetime.datetime"), (.text "double",
        .text "float"), (.text "float", .text "float")]),
    ("polysdk.codegen.languages.typescript.WARN_EDITING",
      .text "NOTE: Do not edit this source code file. It is generated by polysdk."),
    ("polysdk.codegen.languages.typescript.MODELS_QUALIFIER", .text "models."),
    ("polysdk.codegen.languages.typescript.TYPESCRIPT_TYPES",
      .map [(.text "any", .text "any"), (.text "boolean", .text "boolean"), (.text "date",
        .text "Date"), (.text "datetime", .text "Date"), (.text "double", .text "number"),
        (.text "float", .text "number")]),
    ("polysdk.codegen.languages.typescript.REQUEST_ARG", .text "request"),
    ("polysdk.config.DEFAULT_FILENAMES", words .list ["polysdk.yaml polysdk.yml"]),
    ("polysdk.model.STANDARD_INTRINSICS",
      words .tuple ["any boolean date datetime double float int64 integer string void"]),
    ("polysdk.utils.__all__", words .tuple ["capitalize comment_block pascal_case"]),
    ("yaml.__with_libyaml__", .bool true)]

end SdkGen.Yaml
