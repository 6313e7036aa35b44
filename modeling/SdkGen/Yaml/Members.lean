/-!
# Members of places with names

The names that stand in places with names of their own, and the kinds of what they stand for. Those that stand for
whole numbers are kept with the numbers.
-/

namespace SdkGen.Yaml

/-- The names in each place that stand for something that nothing looks into. A row begins with the name of its
kind. -/
def memberRows : List (String × List String) :=
  [("builtins",
      ["type ArithmeticError AssertionError AttributeError BaseException BaseExceptionGroup",
       "type BlockingIOError BrokenPipeError BufferError BytesWarning ChildProcessError",
       "type ConnectionAbortedError ConnectionError ConnectionRefusedError",
       "type ConnectionResetError DeprecationWarning EOFError EncodingWarning",
       "type EnvironmentError Exception ExceptionGroup FileExistsError FileNotFoundError",
       "type FloatingPointError FutureWarning GeneratorExit IOError ImportError ImportWarning",
       "type IndentationError IndexError InterruptedError IsADirectoryError KeyError",
       "type KeyboardInterrupt LookupError MemoryError ModuleNotFoundError NameError",
       "type NotADirectoryError NotImplementedError OSError OverflowError",
       "type PendingDeprecationWarning PermissionError ProcessLookupError RecursionError",
       "type ReferenceError ResourceWarning RuntimeError RuntimeWarning StopAsyncIteration",
       "type StopIteration SyntaxError SyntaxWarning SystemError SystemExit TabError",
       "type TimeoutError TypeError UnboundLocalError UnicodeDecodeError UnicodeEncodeError",
       "type UnicodeError UnicodeTranslateError UnicodeWarning UserWarning ValueError Warning",
       "type ZeroDivisionError __loader__ bool bytearray bytes classmethod complex dict",
       "type enumerate filter float frozenset int list map memoryview object property range",
       "type reversed set slice staticmethod str super tuple type zip",
       "ellipsis Ellipsis",
       "NotImplementedType NotImplemented",
       "builtin_function_or_method __build_class__ __import__ abs aiter all anext any ascii",
       "builtin_function_or_method bin breakpoint callable chr compile delattr dir divmod",
       "builtin_function_or_method eval exec format getattr globals hasattr hash hex id input",
       "builtin_function_or_method isinstance issubclass iter len locals max min next oct",
       "builtin_function_or_method open ord pow print repr round setattr sorted sum vars",
       "ModuleSpec __spec__",
       "_Printer copyright credits license",
       "Quitter exit quit",
       "_Helper help",
       "str __doc__"]),
    ("abc",
      ["ABCMeta ABC",
       "type ABCMeta abstractclassmethod abstractproperty abstractstaticmethod",
       "function abstractmethod update_abstractmethods",
       "builtin_function_or_method get_cache_token"]),
    ("argparse",
      ["type Action ArgumentDefaultsHelpFormatter ArgumentError ArgumentParser",
       "type ArgumentTypeError BooleanOptionalAction FileType HelpFormatter",
       "type MetavarTypeHelpFormatter Namespace RawDescriptionHelpFormatter",
       "type RawTextHelpFormatter",
       "function ngettext",
       "module warnings"]),
    ("ast",
      ["type AST Add And AnnAssign Assert Assign AsyncFor AsyncFunctionDef AsyncWith",
       "type Attribute AugAssign AugLoad AugStore Await BinOp BitAnd BitOr BitXor BoolOp",
       "type Break Call ClassDef Compare Constant Continue Del Delete Dict DictComp Div Eq",
       "type ExceptHandler Expr Expression ExtSlice FloorDiv For FormattedValue FunctionDef",
       "type FunctionType GeneratorExp Global Gt GtE If IfExp Import ImportFrom In Index",
       "type Interactive Invert Is IsNot JoinedStr LShift Lambda List ListComp Load Lt LtE",
       "type MatMult Match MatchAs MatchClass MatchMapping MatchOr MatchSequence",
       "type MatchSingleton MatchStar MatchValue Mod Module Mult Name NamedExpr",
       "type NodeTransformer NodeVisitor Nonlocal Not NotEq NotIn Or Param Pass Pow RShift",
       "type Raise Return Set SetComp Slice Starred Store Sub Subscript Suite Try TryStar",
       "type Tuple TypeIgnore UAdd USub UnaryOp While With Yield YieldFrom alias arg",
       "type arguments auto boolop cmpop comprehension excepthandler expr expr_context",
       "type keyword match_case mod operator pattern slice stmt type_ignore unaryop withitem",
       "_ABC Bytes Ellipsis NameConstant Num Str",
       "EnumType IntEnum",
       "function contextmanager copy_location dump fix_missing_locations get_docstring",
       "function get_source_segment increment_lineno iter_child_nodes iter_fields",
       "function literal_eval main parse unparse walk",
       "ABCMeta nullcontext",
       "module sys"]),
    ("asyncio",
      ["type AbstractChildWatcher AbstractEventLoop AbstractEventLoopPolicy AbstractServer",
       "type Barrier BaseEventLoop BaseProtocol BaseTransport BoundedSemaphore",
       "type BrokenBarrierError BufferedProtocol CancelledError Condition DatagramProtocol",
       "type DatagramTransport DefaultEventLoopPolicy Event FastChildWatcher Future Handle",
       "type IncompleteReadError InvalidStateError LifoQueue LimitOverrunError Lock",
       "type MultiLoopChildWatcher PidfdChildWatcher PriorityQueue Protocol Queue QueueEmpty",
       "type QueueFull ReadTransport Runner SafeChildWatcher SelectorEventLoop Semaphore",
       "type SendfileNotAvailableError Server StreamReader StreamReaderProtocol StreamWriter",
       "type SubprocessProtocol SubprocessTransport Task TaskGroup ThreadedChildWatcher",
       "type Timeout TimeoutError TimerHandle Transport WriteTransport",
       "function all_tasks as_completed create_subprocess_exec create_subprocess_shell",
       "function create_task current_task ensure_future gather get_child_watcher",
       "function get_event_loop_policy iscoroutine iscoroutinefunction isfuture",
       "function new_event_loop open_connection open_unix_connection run",
       "function run_coroutine_threadsafe set_child_watcher set_event_loop",
       "function set_event_loop_policy shield sleep start_server start_unix_server timeout",
       "function timeout_at to_thread wait wait_for wrap_future",
       "module base_events base_futures base_subprocess base_tasks constants coroutines",
       "module events exceptions format_helpers futures locks log mixins protocols queues",
       "module runners selector_events sslproto staggered streams subprocess sys taskgroups",
       "module tasks threads timeouts transports trsock unix_events",
       "builtin_function_or_method get_event_loop get_running_loop"]),
    ("atexit",
      ["builtin_function_or_method register unregister"]),
    ("base64",
      ["function a85decode a85encode b16decode b16encode b32decode b32encode b32hexdecode",
       "function b32hexencode b64decode b64encode b85decode b85encode decode decodebytes",
       "function encode encodebytes main standard_b64decode standard_b64encode test",
       "function urlsafe_b64decode urlsafe_b64encode",
       "module binascii re struct"]),
    ("binascii",
      ["type Error Incomplete",
       "builtin_function_or_method a2b_base64 a2b_hex a2b_qp a2b_uu b2a_base64 b2a_hex b2a_qp",
       "builtin_function_or_method b2a_uu crc32 crc_hqx hexlify unhexlify"]),
    ("bisect",
      ["builtin_function_or_method bisect bisect_left bisect_right insort insort_left",
       "builtin_function_or_method insort_right"]),
    ("bz2",
      ["type BZ2Compressor BZ2Decompressor",
       "ABCMeta BZ2File",
       "function compress decompress open",
       "module io os"]),
    ("calendar",
      ["type Calendar HTMLCalendar IllegalMonthError IllegalWeekdayError LocaleHTMLCalendar",
       "type LocaleTextCalendar TextCalendar different_locale error repeat",
       "TextCalendar c",
       "method calendar firstweekday month monthcalendar prcal prmonth prweek week weekheader",
       "module datetime sys",
       "_localized_day day_abbr day_name",
       "function format formatstring isleap leapdays main monthrange setfirstweekday timegm",
       "function weekday",
       "_localized_month month_abbr month_name"]),
    ("codecs",
      ["type BufferedIncrementalDecoder BufferedIncrementalEncoder Codec CodecInfo",
       "type IncrementalDecoder IncrementalEncoder StreamReader StreamReaderWriter",
       "type StreamRecoder StreamWriter",
       "function EncodedFile getdecoder getencoder getincrementaldecoder",
       "function getincrementalencoder getreader getwriter iterdecode iterencode",
       "function make_encoding_map make_identity_dict open",
       "builtin_function_or_method ascii_decode ascii_encode backslashreplace_errors",
       "builtin_function_or_method charmap_build charmap_decode charmap_encode decode encode",
       "builtin_function_or_method escape_decode escape_encode ignore_errors latin_1_decode",
       "builtin_function_or_method latin_1_encode lookup lookup_error namereplace_errors",
       "builtin_function_or_method raw_unicode_escape_decode raw_unicode_escape_encode",
       "builtin_function_or_method readbuffer_encode register register_error replace_errors",
       "builtin_function_or_method strict_errors unicode_escape_decode unicode_escape_encode",
       "builtin_function_or_method unregister utf_16_be_decode utf_16_be_encode utf_16_decode",
       "builtin_function_or_method utf_16_encode utf_16_ex_decode utf_16_le_decode",
       "builtin_function_or_method utf_16_le_encode utf_32_be_decode utf_32_be_encode",
       "builtin_function_or_method utf_32_decode utf_32_encode utf_32_ex_decode",
       "builtin_function_or_method utf_32_le_decode utf_32_le_encode utf_7_decode",
       "builtin_function_or_method utf_7_encode utf_8_decode utf_8_encode",
       "builtin_function_or_method xmlcharrefreplace_errors",
       "module builtins sys"]),
    ("collections",
      ["ABCMeta ChainMap UserDict UserList UserString",
       "type Counter OrderedDict defaultdict deque",
       "module abc",
       "function namedtuple"]),
    ("collections.abc",
      ["ABCMeta AsyncGenerator AsyncIterable AsyncIterator Awaitable ByteString Callable",
       "ABCMeta Collection Container Coroutine Generator Hashable ItemsView Iterable Iterator",
       "ABCMeta KeysView Mapping MappingView MutableMapping MutableSequence MutableSet",
       "ABCMeta Reversible Sequence Set Sized ValuesView"]),
    ("colorsys",
      ["function hls_to_rgb hsv_to_rgb rgb_to_hls rgb_to_hsv rgb_to_yiq yiq_to_rgb"]),
    ("concurrent.futures",
      ["type BrokenExecutor CancelledError Executor Future InvalidStateError TimeoutError",
       "function as_completed wait"]),
    ("configparser",
      ["type BasicInterpolation DuplicateOptionError DuplicateSectionError Error",
       "type ExtendedInterpolation Interpolation InterpolationDepthError InterpolationError",
       "type InterpolationMissingOptionError InterpolationSyntaxError LegacyInterpolation",
       "type MissingSectionHeaderError NoOptionError NoSectionError ParsingError",
       "ABCMeta ConfigParser ConverterMapping MutableMapping RawConfigParser SafeConfigParser",
       "ABCMeta SectionProxy",
       "module functools io itertools os re sys warnings"]),
    ("contextlib",
      ["ABCMeta AbstractAsyncContextManager AbstractContextManager AsyncExitStack ExitStack",
       "ABCMeta aclosing chdir closing nullcontext redirect_stderr redirect_stdout suppress",
       "type AsyncContextDecorator ContextDecorator GenericAlias MethodType deque",
       "module abc os sys",
       "function asynccontextmanager contextmanager wraps"]),
    ("contextvars",
      ["type Context ContextVar Token",
       "builtin_function_or_method copy_context"]),
    ("copy",
      ["type Error error",
       "function copy deepcopy"]),
    ("copyreg",
      ["function add_extension clear_extension_cache constructor pickle pickle_complex",
       "function pickle_union remove_extension"]),
    ("csv",
      ["type Dialect DictReader DictWriter Error Sniffer StringIO excel excel_tab",
       "type unix_dialect",
       "builtin_function_or_method field_size_limit get_dialect list_dialects reader",
       "builtin_function_or_method register_dialect unregister_dialect writer",
       "module re"]),
    ("dataclasses",
      ["type Field FrozenInstanceError FunctionType GenericAlias InitVar",
       "_KW_ONLY_TYPE KW_ONLY",
       "_MISSING_TYPE MISSING",
       "module abc builtins copy functools inspect itertools keyword re sys types",
       "function asdict astuple dataclass field fields is_dataclass make_dataclass replace"]),
    ("datetime",
      ["timezone UTC",
       "type date datetime time timedelta timezone tzinfo",
       "PyCapsule datetime_CAPI",
       "module sys"]),
    ("decimal",
      ["Context BasicContext DefaultContext ExtendedContext",
       "type Clamped Context ConversionSyntax Decimal DecimalException DecimalTuple",
       "type DivisionByZero DivisionImpossible DivisionUndefined FloatOperation Inexact",
       "type InvalidContext InvalidOperation Overflow Rounded Subnormal Underflow",
       "builtin_function_or_method getcontext localcontext setcontext"]),
    ("dis",
      ["type Bytecode Instruction Positions",
       "_Unknown UNKNOWN",
       "function code_info dis disassemble disco distb findlabels findlinestarts",
       "function get_instructions main pretty_flags show_code",
       "module collections io sys types",
       "builtin_function_or_method stack_effect"]),
    ("email",
      ["function message_from_binary_file message_from_bytes message_from_file",
       "function message_from_string"]),
    ("email.message",
      ["type BytesIO Charset EmailMessage MIMEPart Message StringIO",
       "ABCMeta Policy",
       "module binascii errors quopri re utils",
       "Compat32 compat32",
       "function decode_b",
       "Pattern tspecials"]),
    ("email.utils",
      ["type Charset",
       "function collapse_rfc2231_value decode_params decode_rfc2231 encode_rfc2231",
       "function format_datetime formataddr formatdate getaddresses localtime make_msgid",
       "function mktime_tz parseaddr parsedate parsedate_to_datetime parsedate_tz quote",
       "function unquote",
       "module datetime os random re socket time urllib",
       "Pattern escapesre rfc2231_continuation specialsre"]),
    ("enum",
      ["type DynamicClassAttribute EnumMeta EnumType MappingProxyType auto member nonmember",
       "type property verify",
       "EnumType Enum EnumCheck Flag FlagBoundary IntEnum IntFlag ReprEnum StrEnum",
       "function bin global_enum global_enum_repr global_flag_repr global_str",
       "function pickle_by_enum_name pickle_by_global_name show_flag_values unique",
       "module bltns sys",
       "builtin_function_or_method reduce"]),
    ("fnmatch",
      ["function filter fnmatch fnmatchcase translate",
       "module functools os posixpath re"]),
    ("fractions",
      ["type Decimal",
       "ABCMeta Fraction",
       "module math numbers operator re sys"]),
    ("functools",
      ["type GenericAlias RLock cached_property partial partialmethod singledispatchmethod",
       "function cache lru_cache namedtuple recursive_repr singledispatch total_ordering",
       "function update_wrapper wraps",
       "builtin_function_or_method cmp_to_key get_cache_token reduce"]),
    ("genericpath",
      ["function commonprefix exists getatime getctime getmtime getsize isdir isfile samefile",
       "function sameopenfile samestat",
       "module os stat"]),
    ("getpass",
      ["type GetPassWarning",
       "module contextlib io os sys termios warnings",
       "function fallback_getpass getpass getuser unix_getpass win_getpass"]),
    ("gettext",
      ["function Catalog bindtextdomain c2py dgettext dngettext dnpgettext dpgettext find",
       "function gettext install ngettext npgettext pgettext textdomain translation",
       "type GNUTranslations NullTranslations",
       "module operator os re sys"]),
    ("glob",
      ["module contextlib fnmatch itertools os re stat sys",
       "function escape glob glob0 glob1 has_magic iglob",
       "Pattern magic_check magic_check_bytes"]),
    ("hashlib",
      ["type blake2b blake2s",
       "function file_digest new",
       "builtin_function_or_method md5 pbkdf2_hmac scrypt sha1 sha224 sha256 sha384 sha3_224",
       "builtin_function_or_method sha3_256 sha3_384 sha3_512 sha512 shake_128 shake_256"]),
    ("heapq",
      ["builtin_function_or_method heapify heappop heappush heappushpop heapreplace",
       "function merge nlargest nsmallest"]),
    ("html",
      ["module entities",
       "function escape unescape"]),
    ("importlib",
      ["function find_loader import_module invalidate_caches reload",
       "module machinery sys warnings"]),
    ("importlib.abc",
      ["ABCMeta ExecutionLoader FileLoader Finder InspectLoader Loader MetaPathFinder",
       "ABCMeta PathEntryFinder ResourceLoader ResourceReader SourceLoader",
       "ABCMeta TraversableResources",
       "_ProtocolMeta Traversable",
       "module abc machinery warnings"]),
    ("importlib.machinery",
      ["type BuiltinImporter ExtensionFileLoader FileFinder FrozenImporter ModuleSpec",
       "type NamespaceLoader PathFinder SourceFileLoader SourcelessFileLoader",
       "type WindowsRegistryFinder",
       "function all_suffixes"]),
    ("importlib.metadata",
      ["type Deprecated DeprecatedList DeprecatedTuple Distribution EntryPoint EntryPoints",
       "type FastPath FileHash FreezableDefaultDict Lookup PackageNotFoundError PackagePath",
       "type Pair PathDistribution Prepared Sectioned SelectableGroups starmap",
       "ABCMeta DistributionFinder MetaPathFinder MetadataPathFinder suppress",
       "_SpecialGenericAlias List Mapping",
       "_SpecialForm Optional Union",
       "_ProtocolMeta PackageMetadata SimplePath",
       "module abc collections csv email functools itertools operator os pathlib posixpath re",
       "module sys textwrap warnings zipfile",
       "function always_iterable distribution distributions entry_points files import_module",
       "function metadata method_cache packages_distributions pass_none requires",
       "function unique_everseen version"]),
    ("importlib.util",
      ["ABCMeta LazyLoader Loader",
       "function cache_from_source contextmanager decode_source find_spec module_for_loader",
       "function module_from_spec resolve_name set_loader set_package source_from_cache",
       "function source_hash spec_from_file_location spec_from_loader",
       "module functools sys threading types warnings"]),
    ("inspect",
      ["type ArgInfo Arguments Attribute BlockFinder BoundArguments ClassFoundException",
       "type ClosureVars EndOfBlock FrameInfo FullArgSpec OrderedDict Parameter Signature",
       "type Traceback attrgetter",
       "module abc ast builtins collections dis enum functools importlib itertools linecache",
       "module os re sys token tokenize types",
       "function classify_class_attrs cleandoc currentframe findsource formatannotation",
       "function formatannotationrelativeto formatargvalues get_annotations getabsfile",
       "function getargs getargvalues getattr_static getblock getcallargs getclasstree",
       "function getclosurevars getcomments getcoroutinelocals getcoroutinestate getdoc",
       "function getfile getframeinfo getfullargspec getgeneratorlocals getgeneratorstate",
       "function getinnerframes getlineno getmembers getmembers_static getmodule",
       "function getmodulename getmro getouterframes getsource getsourcefile getsourcelines",
       "function indentsize isabstract isasyncgen isasyncgenfunction isawaitable isbuiltin",
       "function isclass iscode iscoroutine iscoroutinefunction isdatadescriptor isframe",
       "function isfunction isgenerator isgeneratorfunction isgetsetdescriptor",
       "function ismemberdescriptor ismethod ismethoddescriptor ismethodwrapper ismodule",
       "function isroutine istraceback namedtuple signature stack trace unwrap walktree",
       "builtin_function_or_method iskeyword"]),
    ("io",
      ["type BlockingIOError BufferedRWPair BufferedRandom BufferedReader BufferedWriter",
       "type BytesIO FileIO IncrementalNewlineDecoder StringIO TextIOWrapper",
       "type UnsupportedOperation",
       "ABCMeta BufferedIOBase IOBase RawIOBase TextIOBase",
       "module abc",
       "builtin_function_or_method open open_code text_encoding"]),
    ("ipaddress",
      ["type AddressValueError IPv4Address IPv4Interface IPv4Network IPv6Address",
       "type IPv6Interface IPv6Network NetmaskValueError",
       "function collapse_addresses get_mixed_type_key ip_address ip_interface ip_network",
       "function summarize_address_range v4_int_to_packed v6_int_to_packed",
       "module functools"]),
    ("itertools",
      ["type accumulate chain combinations combinations_with_replacement compress count cycle",
       "type dropwhile filterfalse groupby islice pairwise permutations product repeat",
       "type starmap takewhile zip_longest",
       "builtin_function_or_method tee"]),
    ("json",
      ["type JSONDecodeError JSONDecoder JSONEncoder",
       "module codecs decoder encoder scanner",
       "function detect_encoding dump dumps load loads"]),
    ("json.decoder",
      ["function JSONArray JSONObject py_scanstring",
       "type JSONDecodeError JSONDecoder",
       "Pattern STRINGCHUNK WHITESPACE",
       "builtin_function_or_method c_scanstring scanstring",
       "module re scanner"]),
    ("json.encoder",
      ["Pattern ESCAPE ESCAPE_ASCII HAS_UTF8",
       "type JSONEncoder c_make_encoder",
       "builtin_function_or_method c_encode_basestring c_encode_basestring_ascii",
       "builtin_function_or_method encode_basestring encode_basestring_ascii",
       "function py_encode_basestring py_encode_basestring_ascii",
       "module re"]),
    ("json.scanner",
      ["Pattern NUMBER_RE",
       "type c_make_scanner make_scanner",
       "function py_make_scanner",
       "module re"]),
    ("keyword",
      ["builtin_function_or_method iskeyword issoftkeyword"]),
    ("linecache",
      ["function checkcache clearcache getline getlines lazycache updatecache",
       "module functools os sys tokenize"]),
    ("locale",
      ["type Error",
       "function atof atoi currency delocalize format format_string getdefaultlocale",
       "function getlocale getpreferredencoding localeconv localize normalize resetlocale",
       "function setlocale str",
       "builtin_function_or_method bind_textdomain_codeset bindtextdomain dcgettext dgettext",
       "builtin_function_or_method getencoding gettext nl_langinfo strcoll strxfrm textdomain",
       "module encodings functools re sys"]),
    ("logging",
      ["type BufferingFormatter FileHandler Filter Filterer Formatter GenericAlias Handler",
       "type LogRecord Logger LoggerAdapter Manager NullHandler PercentStyle PlaceHolder",
       "type RootLogger StrFormatStyle StreamHandler StringTemplateStyle Template",
       "function addLevelName basicConfig captureWarnings critical currentframe debug disable",
       "function error exception fatal getLevelName getLevelNamesMapping getLogRecordFactory",
       "function getLogger getLoggerClass info log makeLogRecord setLogRecordFactory",
       "function setLoggerClass shutdown warn warning",
       "module atexit collections io os re sys threading time traceback warnings weakref",
       "_StderrHandler lastResort",
       "RootLogger root"]),
    ("lzma",
      ["type LZMACompressor LZMADecompressor LZMAError",
       "ABCMeta LZMAFile",
       "module builtins io os",
       "function compress decompress open",
       "builtin_function_or_method is_check_supported"]),
    ("marshal",
      ["builtin_function_or_method dump dumps load loads"]),
    ("math",
      ["builtin_function_or_method acos acosh asin asinh atan atan2 atanh cbrt ceil comb",
       "builtin_function_or_method copysign cos cosh degrees dist erf erfc exp exp2 expm1",
       "builtin_function_or_method fabs factorial floor fmod frexp fsum gamma gcd hypot",
       "builtin_function_or_method isclose isfinite isinf isnan isqrt lcm ldexp lgamma log",
       "builtin_function_or_method log10 log1p log2 modf nextafter perm pow prod radians",
       "builtin_function_or_method remainder sin sinh sqrt tan tanh trunc ulp"]),
    ("numbers",
      ["type ABCMeta",
       "ABCMeta Complex Integral Number Rational Real",
       "function abstractmethod"]),
    ("operator",
      ["builtin_function_or_method abs add and_ call concat contains countOf delitem eq",
       "builtin_function_or_method floordiv ge getitem gt iadd iand iconcat ifloordiv ilshift",
       "builtin_function_or_method imatmul imod imul index indexOf inv invert ior ipow",
       "builtin_function_or_method irshift is_ is_not isub itruediv ixor le length_hint",
       "builtin_function_or_method lshift lt matmul mod mul ne neg not_ or_ pos pow rshift",
       "builtin_function_or_method setitem sub truediv truth xor",
       "type attrgetter itemgetter methodcaller"]),
    ("os",
      ["type DirEntry GenericAlias error sched_param stat_result statvfs_result terminal_size",
       "type times_result uname_result waitid_result",
       "ABCMeta Mapping MutableMapping PathLike",
       "builtin_function_or_method WCOREDUMP WEXITSTATUS WIFCONTINUED WIFEXITED WIFSIGNALED",
       "builtin_function_or_method WIFSTOPPED WSTOPSIG WTERMSIG abort access chdir chmod",
       "builtin_function_or_method chown chroot close closerange confstr cpu_count ctermid",
       "builtin_function_or_method device_encoding dup dup2 eventfd eventfd_read",
       "builtin_function_or_method eventfd_write execv execve fchdir fchmod fchown fdatasync",
       "builtin_function_or_method fork forkpty fpathconf fspath fstat fstatvfs fsync",
       "builtin_function_or_method ftruncate get_blocking get_inheritable get_terminal_size",
       "builtin_function_or_method getcwd getcwdb getegid geteuid getgid getgrouplist",
       "builtin_function_or_method getgroups getloadavg getlogin getpgid getpgrp getpid",
       "builtin_function_or_method getppid getpriority getresgid getresuid getsid getuid",
       "builtin_function_or_method getxattr initgroups isatty kill killpg lchown link listdir",
       "builtin_function_or_method listxattr lockf login_tty lseek lstat major makedev minor",
       "builtin_function_or_method mkdir mkfifo mknod nice open openpty pathconf pipe pipe2",
       "builtin_function_or_method posix_fadvise posix_fallocate posix_spawn posix_spawnp",
       "builtin_function_or_method pread preadv putenv pwrite pwritev read readlink readv",
       "builtin_function_or_method register_at_fork remove removexattr rename replace rmdir",
       "builtin_function_or_method scandir sched_get_priority_max sched_get_priority_min",
       "builtin_function_or_method sched_getaffinity sched_getparam sched_getscheduler",
       "builtin_function_or_method sched_rr_get_interval sched_setaffinity sched_setparam",
       "builtin_function_or_method sched_setscheduler sched_yield sendfile set_blocking",
       "builtin_function_or_method set_inheritable setegid seteuid setgid setgroups setpgid",
       "builtin_function_or_method setpgrp setpriority setregid setresgid setresuid setreuid",
       "builtin_function_or_method setsid setuid setxattr splice stat statvfs strerror",
       "builtin_function_or_method symlink sync sysconf system tcgetpgrp tcsetpgrp times",
       "builtin_function_or_method truncate ttyname umask uname unlink unsetenv urandom utime",
       "builtin_function_or_method wait wait3 wait4 waitid waitpid waitstatus_to_exitcode",
       "builtin_function_or_method write writev",
       "module abc path st sys",
       "_Environ environ environb",
       "function execl execle execlp execlpe execvp execvpe fdopen fsdecode fsencode fwalk",
       "function get_exec_path getenv getenvb makedirs popen removedirs renames spawnl",
       "function spawnle spawnlp spawnlpe spawnv spawnve spawnvp spawnvpe walk"]),
    ("pathlib",
      ["type Path PosixPath PurePath PurePosixPath PureWindowsPath WindowsPath attrgetter",
       "builtin_function_or_method S_ISBLK S_ISCHR S_ISDIR S_ISFIFO S_ISLNK S_ISREG S_ISSOCK",
       "ABCMeta Sequence",
       "module fnmatch functools io ntpath os posixpath re sys warnings",
       "function urlquote_from_bytes"]),
    ("platform",
      ["function architecture freedesktop_os_release java_ver libc_ver mac_ver machine node",
       "function platform processor python_branch python_build python_compiler",
       "function python_implementation python_revision python_version python_version_tuple",
       "function release system system_alias uname version win32_edition win32_is_iot",
       "function win32_ver",
       "module collections functools itertools os re sys",
       "type uname_result"]),
    ("posixpath",
      ["function abspath basename commonpath commonprefix dirname exists expanduser",
       "function expandvars getatime getctime getmtime getsize isabs isdir isfile islink",
       "function ismount join lexists normcase normpath realpath relpath samefile",
       "function sameopenfile samestat split splitdrive splitext",
       "module genericpath os stat sys"]),
    ("queue",
      ["type Empty Full LifoQueue PriorityQueue Queue SimpleQueue deque",
       "builtin_function_or_method heappop heappush time",
       "module threading types"]),
    ("random",
      ["type Random SystemRandom",
       "method betavariate choice choices expovariate gammavariate gauss getstate",
       "method lognormvariate normalvariate paretovariate randbytes randint randrange sample",
       "method seed setstate shuffle triangular uniform vonmisesvariate weibullvariate",
       "builtin_function_or_method getrandbits random"]),
    ("re",
      ["type Match Pattern Scanner error",
       "EnumType RegexFlag",
       "function compile escape findall finditer fullmatch match purge search split sub subn",
       "function template",
       "module copyreg enum functools"]),
    ("reprlib",
      ["type Repr islice",
       "Repr aRepr",
       "module builtins",
       "builtin_function_or_method get_ident",
       "function recursive_repr",
       "method repr"]),
    ("select",
      ["type epoll error",
       "builtin_function_or_method poll select"]),
    ("selectors",
      ["type ABCMeta SelectorKey",
       "ABCMeta BaseSelector DefaultSelector EpollSelector Mapping PollSelector",
       "ABCMeta SelectSelector",
       "function abstractmethod namedtuple",
       "module math select sys"]),
    ("shlex",
      ["type StringIO deque shlex",
       "function join quote split",
       "module os re sys"]),
    ("shutil",
      ["type Error ExecError ReadError RegistryError SameFileError SpecialFileError",
       "function chown copy copy2 copyfile copyfileobj copymode copystat copytree disk_usage",
       "function get_archive_formats get_terminal_size get_unpack_formats ignore_patterns",
       "function make_archive move register_archive_format register_unpack_format rmtree",
       "function unpack_archive unregister_archive_format unregister_unpack_format which",
       "module collections errno fnmatch os posix stat sys"]),
    ("signal",
      ["EnumType Handlers Sigmasks Signals",
       "type ItimerError struct_siginfo",
       "builtin_function_or_method alarm default_int_handler getitimer pause pthread_kill",
       "builtin_function_or_method raise_signal set_wakeup_fd setitimer siginterrupt",
       "builtin_function_or_method sigtimedwait sigwaitinfo strsignal",
       "function getsignal pthread_sigmask signal sigpending sigwait valid_signals"]),
    ("socket",
      ["EnumType AddressFamily AddressInfo IntEnum IntFlag MsgFlag SocketKind",
       "PyCapsule CAPI",
       "builtin_function_or_method CMSG_LEN CMSG_SPACE close dup getdefaulttimeout",
       "builtin_function_or_method gethostbyaddr gethostbyname gethostbyname_ex gethostname",
       "builtin_function_or_method getnameinfo getprotobyname getservbyname getservbyport",
       "builtin_function_or_method htonl htons if_indextoname if_nameindex if_nametoindex",
       "builtin_function_or_method inet_aton inet_ntoa inet_ntop inet_pton ntohl ntohs",
       "builtin_function_or_method setdefaulttimeout sethostname",
       "ABCMeta SocketIO",
       "type SocketType error gaierror herror socket timeout",
       "module array errno io os selectors sys",
       "function create_connection create_server fromfd getaddrinfo getfqdn",
       "function has_dualstack_ipv6 recv_fds send_fds socketpair"]),
    ("ssl",
      ["EnumType AlertDescription Options Purpose SSLErrorNumber TLSVersion VerifyFlags",
       "EnumType VerifyMode",
       "type CertificateError DefaultVerifyPaths MemoryBIO SSLCertVerificationError",
       "type SSLContext SSLEOFError SSLError SSLObject SSLSession SSLSocket SSLSyscallError",
       "type SSLWantReadError SSLWantWriteError SSLZeroReturnError socket socket_error",
       "function DER_cert_to_PEM_cert PEM_cert_to_DER_cert cert_time_to_seconds",
       "function create_connection create_default_context get_default_verify_paths",
       "function get_protocol_name get_server_certificate match_hostname namedtuple",
       "function wrap_socket",
       "builtin_function_or_method RAND_add RAND_bytes RAND_pseudo_bytes RAND_status",
       "module base64 errno os sys warnings"]),
    ("stat",
      ["builtin_function_or_method S_IFMT S_IMODE S_ISBLK S_ISCHR S_ISDIR S_ISDOOR S_ISFIFO",
       "builtin_function_or_method S_ISLNK S_ISPORT S_ISREG S_ISSOCK S_ISWHT filemode"]),
    ("string",
      ["type Formatter Template",
       "function capwords"]),
    ("struct",
      ["type Struct error",
       "builtin_function_or_method calcsize iter_unpack pack pack_into unpack unpack_from"]),
    ("subprocess",
      ["type CalledProcessError CompletedProcess Popen SubprocessError TimeoutExpired",
       "module builtins contextlib errno fcntl io locale os select selectors signal sys",
       "module threading time types warnings",
       "function call check_call check_output getoutput getstatusoutput list2cmdline run"]),
    ("sys",
      ["builtin_function_or_method addaudithook audit breakpointhook call_tracing displayhook",
       "builtin_function_or_method exc_info excepthook exception exit get_asyncgen_hooks",
       "builtin_function_or_method get_coroutine_origin_tracking_depth get_int_max_str_digits",
       "builtin_function_or_method getallocatedblocks getdefaultencoding getdlopenflags",
       "builtin_function_or_method getfilesystemencodeerrors getfilesystemencoding getprofile",
       "builtin_function_or_method getrecursionlimit getrefcount getsizeof getswitchinterval",
       "builtin_function_or_method gettrace intern is_finalizing set_asyncgen_hooks",
       "builtin_function_or_method set_coroutine_origin_tracking_depth set_int_max_str_digits",
       "builtin_function_or_method setdlopenflags setprofile setrecursionlimit",
       "builtin_function_or_method setswitchinterval settrace unraisablehook",
       "flags flags",
       "float_info float_info",
       "hash_info hash_info",
       "SimpleNamespace implementation",
       "int_info int_info",
       "TextIOWrapper stderr stdin stdout",
       "thread_info thread_info",
       "version_info version_info"]),
    ("tempfile",
      ["function NamedTemporaryFile TemporaryFile gettempdir gettempdirb gettempprefix",
       "function gettempprefixb mkdtemp mkstemp mktemp",
       "ABCMeta SpooledTemporaryFile",
       "type TemporaryDirectory"]),
    ("textwrap",
      ["type TextWrapper",
       "function dedent fill indent shorten wrap",
       "module re"]),
    ("threading",
      ["type Barrier BoundedSemaphore BrokenBarrierError Condition Event ExceptHookArgs",
       "type Semaphore Thread ThreadError Timer WeakSet local",
       "builtin_function_or_method Lock excepthook get_ident get_native_id stack_size",
       "function RLock activeCount active_count currentThread current_thread enumerate",
       "function getprofile gettrace main_thread setprofile settrace",
       "module functools"]),
    ("time",
      ["builtin_function_or_method asctime clock_getres clock_gettime clock_gettime_ns",
       "builtin_function_or_method clock_settime clock_settime_ns ctime get_clock_info gmtime",
       "builtin_function_or_method localtime mktime monotonic monotonic_ns perf_counter",
       "builtin_function_or_method perf_counter_ns process_time process_time_ns",
       "builtin_function_or_method pthread_getcpuclockid sleep strftime strptime thread_time",
       "builtin_function_or_method thread_time_ns time time_ns tzset",
       "type struct_time"]),
    ("token",
      ["function ISEOF ISNONTERMINAL ISTERMINAL"]),
    ("tokenize",
      ["function ISEOF ISNONTERMINAL ISTERMINAL any detect_encoding generate_tokens group",
       "function main maybe open tokenize untokenize",
       "str PlainToken PseudoToken Token",
       "type StopTokenizing TextIOWrapper TokenError TokenInfo Untokenizer",
       "Pattern blank_re cookie_re",
       "module collections functools re sys",
       "builtin_function_or_method lookup"]),
    ("traceback",
      ["type FrameSummary StackSummary TracebackException",
       "function clear_frames extract_stack extract_tb format_exc format_exception",
       "function format_exception_only format_list format_stack format_tb print_exc",
       "function print_exception print_last print_list print_stack print_tb walk_stack",
       "function walk_tb",
       "module collections itertools linecache sys textwrap",
       "ABCMeta suppress"]),
    ("types",
      ["type AsyncGeneratorType BuiltinFunctionType BuiltinMethodType CellType",
       "type ClassMethodDescriptorType CodeType CoroutineType DynamicClassAttribute",
       "type EllipsisType FrameType FunctionType GeneratorType GenericAlias",
       "type GetSetDescriptorType LambdaType MappingProxyType MemberDescriptorType",
       "type MethodDescriptorType MethodType MethodWrapperType ModuleType NoneType",
       "type NotImplementedType SimpleNamespace TracebackType UnionType WrapperDescriptorType",
       "function coroutine new_class prepare_class resolve_bases"]),
    ("typing",
      ["type ABCMeta Annotated BinaryIO ForwardRef Generic GenericAlias IO",
       "type MethodDescriptorType MethodWrapperType NamedTupleMeta NewType ParamSpec",
       "type ParamSpecArgs ParamSpecKwargs Text TextIO TypeVar TypeVarTuple",
       "type WrapperDescriptorType defaultdict",
       "_SpecialGenericAlias AbstractSet AsyncContextManager AsyncGenerator AsyncIterable",
       "_SpecialGenericAlias AsyncIterator Awaitable ByteString ChainMap Collection Container",
       "_SpecialGenericAlias ContextManager Coroutine Counter DefaultDict Deque Dict",
       "_SpecialGenericAlias FrozenSet Generator Hashable ItemsView Iterable Iterator",
       "_SpecialGenericAlias KeysView List Mapping MappingView Match MutableMapping",
       "_SpecialGenericAlias MutableSequence MutableSet OrderedDict Pattern Reversible",
       "_SpecialGenericAlias Sequence Set Sized Type ValuesView",
       "_AnyMeta Any",
       "TypeVar AnyStr CT_co KT T T_co T_contra VT VT_co V_co",
       "_CallableType Callable",
       "_SpecialForm ClassVar Concatenate Final LiteralString Never NoReturn NotRequired",
       "_SpecialForm Optional Required Self TypeAlias TypeGuard Union Unpack",
       "_LiteralSpecialForm Literal",
       "function NamedTuple TypedDict abstractmethod assert_never assert_type cast",
       "function clear_overloads dataclass_transform final get_args get_origin get_overloads",
       "function get_type_hints is_typeddict no_type_check no_type_check_decorator overload",
       "function reveal_type runtime_checkable",
       "_ProtocolMeta Protocol SupportsAbs SupportsBytes SupportsComplex SupportsFloat",
       "_ProtocolMeta SupportsIndex SupportsInt SupportsRound",
       "_TupleType Tuple",
       "module collections contextlib functools operator stdlib_re sys types warnings",
       "_DeprecatedType io re"]),
    ("unicodedata",
      ["type UCD",
       "builtin_function_or_method bidirectional category combining decimal decomposition",
       "builtin_function_or_method digit east_asian_width is_normalized lookup mirrored name",
       "builtin_function_or_method normalize numeric",
       "UCD ucd_3_2_0"]),
    ("urllib",
      ["module parse"]),
    ("urllib.parse",
      ["type DefragResult DefragResultBytes ParseResult ParseResultBytes ResultBase",
       "type SplitResult SplitResultBytes",
       "function clear_cache namedtuple parse_qs parse_qsl quote quote_from_bytes quote_plus",
       "function splitattr splithost splitnport splitpasswd splitport splitquery splittag",
       "function splittype splituser splitvalue to_bytes unquote unquote_plus",
       "function unquote_to_bytes unwrap urldefrag urlencode urljoin urlparse urlunparse",
       "function urlunsplit",
       "module functools ipaddress re sys types warnings",
       "_lru_cache_wrapper urlsplit"]),
    ("uuid",
      ["EnumType Enum SafeUUID",
       "UUID NAMESPACE_DNS NAMESPACE_OID NAMESPACE_URL NAMESPACE_X500",
       "type UUID bytes_ int_",
       "function getnode uuid1 uuid3 uuid4 uuid5",
       "module os platform sys"]),
    ("warnings",
      ["type WarningMessage catch_warnings",
       "function filterwarnings formatwarning resetwarnings showwarning simplefilter",
       "module sys",
       "builtin_function_or_method warn warn_explicit"]),
    ("weakref",
      ["type CallableProxyType KeyedRef ProxyType ReferenceType WeakMethod WeakSet finalize",
       "type ref",
       "ABCMeta WeakKeyDictionary WeakValueDictionary",
       "builtin_function_or_method getweakrefcount getweakrefs proxy",
       "module itertools sys"]),
    ("zipfile",
      ["type BadZipFile BadZipfile CompleteDirs FastLookup LZMACompressor LZMADecompressor",
       "type LargeZipFile Path PyZipFile ZipFile ZipInfo error",
       "ABCMeta ZipExtFile",
       "module binascii bz2 contextlib importlib io itertools lzma os pathlib posixpath re",
       "module shutil stat struct sys threading time zlib",
       "builtin_function_or_method crc32",
       "function is_zipfile main"]),
    ("zlib",
      ["builtin_function_or_method adler32 compress compressobj crc32 decompress",
       "builtin_function_or_method decompressobj",
       "type error"]),
    ("polysdk",
      ["type ArgumentAssembler Conventions GeneratedSources GenerationContext SdkGenerator",
       "type TypeReferenceResolver ConfigurationError ModelLoadError ModelNotBoundError",
       "type OutputError PolySDKError TypeNameConflictError UnsupportedFeatureError ApiModel",
       "type ArrayType IntrinsicType Method Parameter Property Type",
       "ABCMeta CodeFormatter FileEmitter StringEmitter",
       "ModelMetaclass GeneratorConfig TargetConfig",
       "EnumType ParamLocation",
       "function get_config get_formatter load_model",
       "module cli codegen config exceptions model utils"]),
    ("polysdk.cli",
      ["function generate languages version get_config load_model",
       "type Console PolySDKError RichHandler SdkGenerator Annotated",
       "ABCMeta FileEmitter Progress SpinnerColumn TextColumn",
       "module logging typer",
       "Console console",
       "Typer app"]),
    ("polysdk.codegen",
      ["type ArgumentAssembler Conventions GeneratedSources GenerationContext MappedType",
       "type SdkGenerator TypeReferenceResolver",
       "ABCMeta CodeEmitter CodeFormatter FileEmitter StringEmitter",
       "function get_formatter",
       "module arguments context conventions emitter formatter generator languages resolver"]),
    ("polysdk.codegen.arguments",
      ["type ArgumentAssembler Conventions Method",
       "ABCMeta Sequence"]),
    ("polysdk.codegen.context",
      ["type ApiModel GenerationContext TypeReferenceResolver",
       "function dataclass"]),
    ("polysdk.codegen.conventions",
      ["type Conventions",
       "function dataclass"]),
    ("polysdk.codegen.emitter",
      ["ABCMeta ABC CodeEmitter CodeFormatter FileEmitter StringEmitter",
       "type GeneratedSources OutputError UPath",
       "function abstractmethod",
       "module logging",
       "Logger logger"]),
    ("polysdk.codegen.formatter",
      ["ABCMeta ABC CodeFormatter",
       "type ApiModel ArgumentAssembler Conventions GenerationContext MappedType Method",
       "type Parameter Property Type",
       "_AnyMeta Any",
       "function abstractmethod comment_block dataclass replace",
       "module json"]),
    ("polysdk.codegen.generator",
      ["type ApiModel GeneratedSources GenerationContext SdkGenerator",
       "ABCMeta CodeFormatter",
       "function dataclass field",
       "module logging",
       "Logger logger"]),
    ("polysdk.codegen.languages",
      ["ABCMeta CodeFormatter PythonFormatter TypeScriptFormatter",
       "type UnsupportedFeatureError",
       "function get_formatter",
       "module python typescript"]),
    ("polysdk.codegen.languages.python",
      ["ABCMeta CodeFormatter PythonFormatter",
       "type ArrayType Conventions GenerationContext MappedType Method Parameter Property",
       "type Type",
       "EnumType ParamLocation",
       "function pascal_case"]),
    ("polysdk.codegen.languages.typescript",
      ["ABCMeta CodeFormatter TypeScriptFormatter",
       "type ArrayType Conventions GenerationContext MappedType Method Parameter Property",
       "type Type",
       "EnumType ParamLocation",
       "function pascal_case comment_block",
       "module re"]),
    ("polysdk.codegen.resolver",
      ["type ApiModel ArrayType Counter Method ModelNotBoundError Type TypeNameConflictError",
       "type TypeReferenceResolver",
       "ABCMeta Iterator",
       "module logging",
       "Logger logger"]),
    ("polysdk.config",
      ["module importlib os yaml",
       "type ApiModel ConfigurationError ModelLoadError Path ValidationError",
       "ModelMetaclass BaseModel BaseSettings GeneratorConfig TargetConfig",
       "ABCMeta CodeFormatter",
       "_TypedDictMeta SettingsConfigDict",
       "function Field get_config get_formatter load_model load_yaml"]),
    ("polysdk.exceptions",
      ["type ConfigurationError ModelLoadError ModelNotBoundError OutputError PolySDKError",
       "type TypeNameConflictError UnsupportedFeatureError"]),
    ("polysdk.model",
      ["type ApiModel ArrayType IntrinsicType Method Parameter Property Type",
       "ABCMeta Iterable",
       "EnumType Enum ParamLocation",
       "function dataclass field pascal_case"]),
    ("polysdk.utils",
      ["module re unicodedata",
       "function capitalize comment_block pascal_case remove_accents"]),
    ("yaml",
      ["type Token DirectiveToken DocumentStartToken DocumentEndToken StreamStartToken",
       "type StreamEndToken BlockSequenceStartToken BlockMappingStartToken BlockEndToken",
       "type FlowSequenceStartToken FlowMappingStartToken FlowSequenceEndToken",
       "type FlowMappingEndToken KeyToken ValueToken BlockEntryToken FlowEntryToken",
       "type AliasToken AnchorToken TagToken ScalarToken Event NodeEvent CollectionStartEvent",
       "type CollectionEndEvent StreamStartEvent StreamEndEvent DocumentStartEvent",
       "type DocumentEndEvent AliasEvent ScalarEvent SequenceStartEvent SequenceEndEvent",
       "type MappingStartEvent MappingEndEvent Node ScalarNode CollectionNode SequenceNode",
       "type MappingNode BaseLoader FullLoader SafeLoader Loader UnsafeLoader BaseDumper",
       "type SafeDumper Dumper CBaseLoader CSafeLoader CFullLoader CUnsafeLoader CLoader",
       "type CBaseDumper CSafeDumper CDumper Mark YAMLError MarkedYAMLError",
       "type YAMLObjectMetaclass",
       "YAMLObjectMetaclass YAMLObject",
       "function add_constructor add_implicit_resolver add_multi_constructor",
       "function add_multi_representer add_path_resolver add_representer compose compose_all",
       "function dump dump_all emit full_load full_load_all load load_all parse safe_dump",
       "function safe_dump_all safe_load safe_load_all scan serialize serialize_all",
       "function unsafe_load unsafe_load_all warnings",
       "module composer constructor cyaml dumper emitter error events io loader nodes parser",
       "module reader representer resolver scanner serializer tokens"]),
    ("yaml.error",
      ["type Mark MarkedYAMLError YAMLError"]),
    ("yaml.tokens",
      ["type Token DirectiveToken DocumentStartToken DocumentEndToken StreamStartToken",
       "type StreamEndToken BlockSequenceStartToken BlockMappingStartToken BlockEndToken",
       "type FlowSequenceStartToken FlowMappingStartToken FlowSequenceEndToken",
       "type FlowMappingEndToken KeyToken ValueToken BlockEntryToken FlowEntryToken",
       "type AliasToken AnchorToken TagToken ScalarToken"]),
    ("yaml.events",
      ["type Event NodeEvent CollectionStartEvent CollectionEndEvent StreamStartEvent",
       "type StreamEndEvent DocumentStartEvent DocumentEndEvent AliasEvent ScalarEvent",
       "type SequenceStartEvent SequenceEndEvent MappingStartEvent MappingEndEvent"]),
    ("yaml.nodes",
      ["type Node ScalarNode CollectionNode SequenceNode MappingNode"]),
    ("yaml.loader",
      ["type BaseLoader FullLoader SafeLoader Loader UnsafeLoader Reader Scanner Parser",
       "type Composer BaseConstructor SafeConstructor FullConstructor UnsafeConstructor",
       "type Constructor ConstructorError BaseResolver Resolver ReaderError ScannerError",
       "type ParserError ComposerError"]),
    ("yaml.dumper",
      ["type BaseDumper SafeDumper Dumper Emitter Serializer BaseRepresenter SafeRepresenter",
       "type Representer BaseResolver Resolver"]),
    ("yaml.constructor",
      ["type BaseConstructor Constructor ConstructorError FullConstructor SafeConstructor",
       "type UnsafeConstructor MarkedYAMLError Mark YAMLError Node ScalarNode CollectionNode",
       "type SequenceNode MappingNode",
       "module base64 binascii collections datetime re sys types"]),
    ("yaml.resolver",
      ["type BaseResolver Resolver ResolverError YAMLError Mark MarkedYAMLError Node",
       "type ScalarNode CollectionNode SequenceNode MappingNode",
       "module re"]),
    ("yaml.composer",
      ["type Composer ComposerError Mark MarkedYAMLError YAMLError Event NodeEvent",
       "type CollectionStartEvent CollectionEndEvent StreamStartEvent StreamEndEvent",
       "type DocumentStartEvent DocumentEndEvent AliasEvent ScalarEvent SequenceStartEvent",
       "type SequenceEndEvent MappingStartEvent MappingEndEvent Node ScalarNode",
       "type CollectionNode SequenceNode MappingNode"]),
    ("yaml.parser",
      ["type Parser ParserError Scanner ScannerError SimpleKey Mark MarkedYAMLError YAMLError",
       "type Token DirectiveToken DocumentStartToken DocumentEndToken StreamStartToken",
       "type StreamEndToken BlockSequenceStartToken BlockMappingStartToken BlockEndToken",
       "type FlowSequenceStartToken FlowMappingStartToken FlowSequenceEndToken",
       "type FlowMappingEndToken KeyToken ValueToken BlockEntryToken FlowEntryToken",
       "type AliasToken AnchorToken TagToken ScalarToken Event NodeEvent CollectionStartEvent",
       "type CollectionEndEvent StreamStartEvent StreamEndEvent DocumentStartEvent",
       "type DocumentEndEvent AliasEvent ScalarEvent SequenceStartEvent SequenceEndEvent",
       "type MappingStartEvent MappingEndEvent"]),
    ("yaml.scanner",
      ["type Scanner ScannerError SimpleKey Mark MarkedYAMLError YAMLError Token",
       "type DirectiveToken DocumentStartToken DocumentEndToken StreamStartToken",
       "type StreamEndToken BlockSequenceStartToken BlockMappingStartToken BlockEndToken",
       "type FlowSequenceStartToken FlowMappingStartToken FlowSequenceEndToken",
       "type FlowMappingEndToken KeyToken ValueToken BlockEntryToken FlowEntryToken",
       "type AliasToken AnchorToken TagToken ScalarToken"]),
    ("yaml.reader",
      ["type Reader ReaderError Mark YAMLError",
       "module codecs re"]),
    ("yaml.emitter",
      ["type Emitter EmitterError ScalarAnalysis YAMLError Event NodeEvent",
       "type CollectionStartEvent CollectionEndEvent StreamStartEvent StreamEndEvent",
       "type DocumentStartEvent DocumentEndEvent AliasEvent ScalarEvent SequenceStartEvent",
       "type SequenceEndEvent MappingStartEvent MappingEndEvent"]),
    ("yaml.serializer",
      ["type Serializer SerializerError YAMLError Event NodeEvent CollectionStartEvent",
       "type CollectionEndEvent StreamStartEvent StreamEndEvent DocumentStartEvent",
       "type DocumentEndEvent AliasEvent ScalarEvent SequenceStartEvent SequenceEndEvent",
       "type MappingStartEvent MappingEndEvent Node ScalarNode CollectionNode SequenceNode",
       "type MappingNode"]),
    ("yaml.representer",
      ["type BaseRepresenter Representer RepresenterError SafeRepresenter Node ScalarNode",
       "type CollectionNode SequenceNode MappingNode",
       "module base64 collections copyreg datetime types"]),
    ("yaml.cyaml",
      ["type CBaseLoader CSafeLoader CFullLoader CUnsafeLoader CLoader CBaseDumper",
       "type CSafeDumper CDumper CParser CEmitter SafeConstructor FullConstructor Constructor",
       "type BaseConstructor UnsafeConstructor BaseRepresenter SafeRepresenter Representer",
       "type BaseResolver Resolver"]),
    ("pydantic",
      ["ModelMetaclass BaseModel RootModel",
       "type AliasChoices AliasGenerator AliasPath AnyUrl EmailStr HttpUrl PydanticUserError",
       "type SecretBytes SecretStr TypeAdapter ValidationError ValidationInfo",
       "_TypedDictMeta ConfigDict",
       "function Field PrivateAttr computed_field conbytes condate condecimal confloat",
       "function confrozenset conint conlist conset constr create_model field_serializer",
       "function field_validator model_serializer model_validator root_validator",
       "function validate_call validator",
       "module fields main types errors config networks"]),
    ("pydantic_settings",
      ["ModelMetaclass BaseSettings",
       "ABCMeta CliSettingsSource DotEnvSettingsSource EnvSettingsSource InitSettingsSource",
       "ABCMeta PydanticBaseSettingsSource SecretsSettingsSource TomlConfigSettingsSource",
       "ABCMeta YamlConfigSettingsSource JsonConfigSettingsSource",
       "_TypedDictMeta SettingsConfigDict",
       "type CliApp NoDecode ForceDecode",
       "module main sources"]),
    ("typer",
      ["type Abort BadParameter CallbackParam Context Exit FileBinaryRead FileBinaryWrite",
       "type FileText FileTextWrite Typer",
       "function Argument Option clear confirm echo echo_via_pager edit format_filename",
       "function get_app_dir get_binary_stream get_text_stream getchar launch open_file pause",
       "function progressbar prompt run secho style unstyle",
       "module colors core main models params rich_utils testing"]),
    ("click",
      ["type Abort Argument BadArgumentUsage BadOptionUsage BadParameter Choice",
       "type ClickException Command CommandCollection Context DateTime File FileError",
       "type FloatRange Group HelpFormatter IntRange MissingParameter NoSuchOption Option",
       "type Parameter ParamType Path Tuple UsageError",
       "function argument clear command confirm confirmation_option echo echo_via_pager edit",
       "function format_filename get_app_dir get_binary_stream get_current_context",
       "function get_text_stream getchar group help_option launch make_pass_decorator",
       "function open_file option pass_context pass_obj password_option pause progressbar",
       "function prompt secho style unstyle version_option wrap_text",
       "module core decorators exceptions formatting globals parser termui types utils"]),
    ("rich",
      ["function get_console inspect print print_json reconfigure",
       "module console logging progress text"]),
    ("rich.console",
      ["type Console ConsoleOptions ConsoleDimensions Group RenderHook"]),
    ("rich.logging",
      ["type RichHandler"]),
    ("rich.progress",
      ["ABCMeta BarColumn Progress ProgressColumn SpinnerColumn TextColumn TimeElapsedColumn",
       "ABCMeta TimeRemainingColumn"]),
    ("rich.text",
      ["type Span Text"]),
    ("upath",
      ["type UPath"]),
    ("upath.core",
      ["type UPath"])]

/-- The whole numbers in each place: a name, an equals sign and the number. -/
def memberNumbers : List (String × List String) :=
  [("ast",
      ["PyCF_ALLOW_TOP_LEVEL_AWAIT=8192 PyCF_ONLY_AST=1024 PyCF_TYPE_COMMENTS=4096"]),
    ("base64",
      ["MAXBINSIZE=57 MAXLINESIZE=76"]),
    ("calendar",
      ["EPOCH=1970 FRIDAY=4 February=2 January=1 MONDAY=0 SATURDAY=5 SUNDAY=6 THURSDAY=3",
       "TUESDAY=1 WEDNESDAY=2"]),
    ("configparser",
      ["MAX_INTERPOLATION_DEPTH=10"]),
    ("csv",
      ["QUOTE_ALL=1 QUOTE_MINIMAL=0 QUOTE_NONE=3 QUOTE_NONNUMERIC=2"]),
    ("datetime",
      ["MAXYEAR=9999 MINYEAR=1"]),
    ("decimal",
      ["MAX_EMAX=999999999999999999 MAX_PREC=999999999999999999 MIN_EMIN=-999999999999999999",
       "MIN_ETINY=-1999999999999999997"]),
    ("dis",
      ["BINARY_OP=122 CACHE=0 EXTENDED_ARG=144 FORMAT_VALUE=155 HAVE_ARGUMENT=90",
       "JUMP_BACKWARD=140 LOAD_CONST=100 LOAD_GLOBAL=116 MAKE_FUNCTION=132 spec_op=180"]),
    ("errno",
      ["E2BIG=7 EACCES=13 EADDRINUSE=98 EADDRNOTAVAIL=99 EADV=68 EAFNOSUPPORT=97 EAGAIN=11",
       "EALREADY=114 EBADE=52 EBADF=9 EBADFD=77 EBADMSG=74 EBADR=53 EBADRQC=56 EBADSLT=57",
       "EBFONT=59 EBUSY=16 ECANCELED=125 ECHILD=10 ECHRNG=44 ECOMM=70 ECONNABORTED=103",
       "ECONNREFUSED=111 ECONNRESET=104 EDEADLK=35 EDEADLOCK=35 EDESTADDRREQ=89 EDOM=33",
       "EDOTDOT=73 EDQUOT=122 EEXIST=17 EFAULT=14 EFBIG=27 EHOSTDOWN=112 EHOSTUNREACH=113",
       "EIDRM=43 EILSEQ=84 EINPROGRESS=115 EINTR=4 EINVAL=22 EIO=5 EISCONN=106 EISDIR=21",
       "EISNAM=120 EKEYEXPIRED=127 EKEYREJECTED=129 EKEYREVOKED=128 EL2HLT=51 EL2NSYNC=45",
       "EL3HLT=46 EL3RST=47 ELIBACC=79 ELIBBAD=80 ELIBEXEC=83 ELIBMAX=82 ELIBSCN=81 ELNRNG=48",
       "ELOOP=40 EMEDIUMTYPE=124 EMFILE=24 EMLINK=31 EMSGSIZE=90 EMULTIHOP=72 ENAMETOOLONG=36",
       "ENAVAIL=119 ENETDOWN=100 ENETRESET=102 ENETUNREACH=101 ENFILE=23 ENOANO=55 ENOBUFS=105",
       "ENOCSI=50 ENODATA=61 ENODEV=19 ENOENT=2 ENOEXEC=8 ENOKEY=126 ENOLCK=37 ENOLINK=67",
       "ENOMEDIUM=123 ENOMEM=12 ENOMSG=42 ENONET=64 ENOPKG=65 ENOPROTOOPT=92 ENOSPC=28 ENOSR=63",
       "ENOSTR=60 ENOSYS=38 ENOTBLK=15 ENOTCONN=107 ENOTDIR=20 ENOTEMPTY=39 ENOTNAM=118",
       "ENOTRECOVERABLE=131 ENOTSOCK=88 ENOTSUP=95 ENOTTY=25 ENOTUNIQ=76 ENXIO=6 EOPNOTSUPP=95",
       "EOVERFLOW=75 EOWNERDEAD=130 EPERM=1 EPFNOSUPPORT=96 EPIPE=32 EPROTO=71",
       "EPROTONOSUPPORT=93 EPROTOTYPE=91 ERANGE=34 EREMCHG=78 EREMOTE=66 EREMOTEIO=121",
       "ERESTART=85 ERFKILL=132 EROFS=30 ESHUTDOWN=108 ESOCKTNOSUPPORT=94 ESPIPE=29 ESRCH=3",
       "ESRMNT=69 ESTALE=116 ESTRPIPE=86 ETIME=62 ETIMEDOUT=110 ETOOMANYREFS=109 ETXTBSY=26",
       "EUCLEAN=117 EUNATCH=49 EUSERS=87 EWOULDBLOCK=11 EXDEV=18 EXFULL=54"]),
    ("inspect",
      ["CO_ASYNC_GENERATOR=512 CO_COROUTINE=128 CO_GENERATOR=32 CO_ITERABLE_COROUTINE=256",
       "CO_NESTED=16 CO_NEWLOCALS=2 CO_NOFREE=64 CO_OPTIMIZED=1 CO_VARARGS=4 CO_VARKEYWORDS=8",
       "TPFLAGS_IS_ABSTRACT=1048576"]),
    ("io",
      ["DEFAULT_BUFFER_SIZE=8192 SEEK_CUR=1 SEEK_END=2 SEEK_SET=0"]),
    ("ipaddress",
      ["IPV4LENGTH=32 IPV6LENGTH=128"]),
    ("json.decoder",
      ["FLAGS=88"]),
    ("locale",
      ["ABDAY_1=131072 ABDAY_2=131073 ABDAY_3=131074 ABDAY_4=131075 ABDAY_5=131076",
       "ABDAY_6=131077 ABDAY_7=131078 ABMON_1=131086 ABMON_10=131095 ABMON_11=131096",
       "ABMON_12=131097 ABMON_2=131087 ABMON_3=131088 ABMON_4=131089 ABMON_5=131090",
       "ABMON_6=131091 ABMON_7=131092 ABMON_8=131093 ABMON_9=131094 ALT_DIGITS=131119",
       "AM_STR=131110 CHAR_MAX=127 CODESET=14 CRNCYSTR=262159 DAY_1=131079 DAY_2=131080",
       "DAY_3=131081 DAY_4=131082 DAY_5=131083 DAY_6=131084 DAY_7=131085 D_FMT=131113",
       "D_T_FMT=131112 ERA=131116 ERA_D_FMT=131118 ERA_D_T_FMT=131120 ERA_T_FMT=131121 LC_ALL=6",
       "LC_COLLATE=3 LC_CTYPE=0 LC_MESSAGES=5 LC_MONETARY=4 LC_NUMERIC=1 LC_TIME=2 MON_1=131098",
       "MON_10=131107 MON_11=131108 MON_12=131109 MON_2=131099 MON_3=131100 MON_4=131101",
       "MON_5=131102 MON_6=131103 MON_7=131104 MON_8=131105 MON_9=131106 NOEXPR=327681",
       "PM_STR=131111 RADIXCHAR=65536 THOUSEP=65537 T_FMT=131114 T_FMT_AMPM=131115",
       "YESEXPR=327680"]),
    ("logging",
      ["CRITICAL=50 DEBUG=10 ERROR=40 FATAL=50 INFO=20 NOTSET=0 WARN=30 WARNING=30"]),
    ("lzma",
      ["CHECK_CRC32=1 CHECK_CRC64=4 CHECK_ID_MAX=15 CHECK_NONE=0 CHECK_SHA256=10",
       "CHECK_UNKNOWN=16 FILTER_ARM=7 FILTER_ARMTHUMB=8 FILTER_DELTA=3 FILTER_IA64=6",
       "FILTER_LZMA1=4611686018427387905 FILTER_LZMA2=33 FILTER_POWERPC=5 FILTER_SPARC=9",
       "FILTER_X86=4 FORMAT_ALONE=2 FORMAT_AUTO=0 FORMAT_RAW=3 FORMAT_XZ=1 MF_BT2=18 MF_BT3=19",
       "MF_BT4=20 MF_HC3=3 MF_HC4=4 MODE_FAST=1 MODE_NORMAL=2 PRESET_DEFAULT=6",
       "PRESET_EXTREME=2147483648"]),
    ("marshal",
      ["version=4"]),
    ("os",
      ["CLD_CONTINUED=6 CLD_DUMPED=3 CLD_EXITED=1 CLD_KILLED=2 CLD_STOPPED=5 CLD_TRAPPED=4",
       "EFD_CLOEXEC=524288 EFD_NONBLOCK=2048 EFD_SEMAPHORE=1 EX_CANTCREAT=73 EX_CONFIG=78",
       "EX_DATAERR=65 EX_IOERR=74 EX_NOHOST=68 EX_NOINPUT=66 EX_NOPERM=77 EX_NOUSER=67 EX_OK=0",
       "EX_OSERR=71 EX_OSFILE=72 EX_PROTOCOL=76 EX_SOFTWARE=70 EX_TEMPFAIL=75 EX_UNAVAILABLE=69",
       "EX_USAGE=64 F_LOCK=1 F_OK=0 F_TEST=3 F_TLOCK=2 F_ULOCK=0 NGROUPS_MAX=65536 O_ACCMODE=3",
       "O_APPEND=1024 O_ASYNC=8192 O_CLOEXEC=524288 O_CREAT=64 O_DIRECT=16384 O_DIRECTORY=65536",
       "O_DSYNC=4096 O_EXCL=128 O_FSYNC=1052672 O_LARGEFILE=0 O_NDELAY=2048 O_NOATIME=262144",
       "O_NOCTTY=256 O_NOFOLLOW=131072 O_NONBLOCK=2048 O_PATH=2097152 O_RDONLY=0 O_RDWR=2",
       "O_RSYNC=1052672 O_SYNC=1052672 O_TMPFILE=4259840 O_TRUNC=512 O_WRONLY=1",
       "POSIX_FADV_DONTNEED=4 POSIX_FADV_NOREUSE=5 POSIX_FADV_NORMAL=0 POSIX_FADV_RANDOM=1",
       "POSIX_FADV_SEQUENTIAL=2 POSIX_FADV_WILLNEED=3 POSIX_SPAWN_CLOSE=1 POSIX_SPAWN_DUP2=2",
       "POSIX_SPAWN_OPEN=0 PRIO_PGRP=1 PRIO_PROCESS=0 PRIO_USER=2 P_ALL=0 P_NOWAIT=1 P_NOWAITO=1",
       "P_PGID=2 P_PID=1 P_WAIT=0 RTLD_DEEPBIND=8 RTLD_GLOBAL=256 RTLD_LAZY=1 RTLD_LOCAL=0",
       "RTLD_NODELETE=4096 RTLD_NOLOAD=4 RTLD_NOW=2 R_OK=4 SCHED_BATCH=3 SCHED_FIFO=1",
       "SCHED_IDLE=5 SCHED_OTHER=0 SCHED_RESET_ON_FORK=1073741824 SCHED_RR=2 SEEK_CUR=1",
       "SEEK_DATA=3 SEEK_END=2 SEEK_HOLE=4 SEEK_SET=0 SPLICE_F_MORE=4 SPLICE_F_MOVE=1",
       "SPLICE_F_NONBLOCK=2 ST_APPEND=256 ST_MANDLOCK=64 ST_NOATIME=1024 ST_NODEV=4",
       "ST_NODIRATIME=2048 ST_NOEXEC=8 ST_NOSUID=2 ST_RDONLY=1 ST_RELATIME=4096",
       "ST_SYNCHRONOUS=16 ST_WRITE=128 TMP_MAX=238328 WCONTINUED=8 WEXITED=4 WNOHANG=1",
       "WNOWAIT=16777216 WSTOPPED=2 WUNTRACED=2 W_OK=2 XATTR_CREATE=1 XATTR_REPLACE=2",
       "XATTR_SIZE_MAX=65536 X_OK=1"]),
    ("pathlib",
      ["EBADF=9 ELOOP=40 ENOENT=2 ENOTDIR=20"]),
    ("random",
      ["BPF=53"]),
    ("re",
      ["A=256 ASCII=256 DEBUG=128 DOTALL=16 I=2 IGNORECASE=2 L=4 LOCALE=4 M=8 MULTILINE=8",
       "NOFLAG=0 S=16 T=1 TEMPLATE=1 U=32 UNICODE=32 VERBOSE=64 X=64"]),
    ("select",
      ["EPOLLERR=8 EPOLLET=2147483648 EPOLLHUP=16 EPOLLIN=1 EPOLLMSG=1024",
       "EPOLLONESHOT=1073741824 EPOLLOUT=4 EPOLLPRI=2 EPOLLRDBAND=128 EPOLLRDHUP=8192",
       "EPOLLRDNORM=64 EPOLLWRBAND=512 EPOLLWRNORM=256 EPOLL_CLOEXEC=524288 PIPE_BUF=4096",
       "POLLERR=8 POLLHUP=16 POLLIN=1 POLLMSG=1024 POLLNVAL=32 POLLOUT=4 POLLPRI=2",
       "POLLRDBAND=128 POLLRDHUP=8192 POLLRDNORM=64 POLLWRBAND=512 POLLWRNORM=256"]),
    ("selectors",
      ["EVENT_READ=1 EVENT_WRITE=2"]),
    ("shutil",
      ["COPY_BUFSIZE=65536"]),
    ("signal",
      ["ITIMER_PROF=2 ITIMER_REAL=0 ITIMER_VIRTUAL=1 NSIG=65 SIGABRT=6 SIGALRM=14 SIGBUS=7",
       "SIGCHLD=17 SIGCLD=17 SIGCONT=18 SIGFPE=8 SIGHUP=1 SIGILL=4 SIGINT=2 SIGIO=29 SIGIOT=6",
       "SIGKILL=9 SIGPIPE=13 SIGPOLL=29 SIGPROF=27 SIGPWR=30 SIGQUIT=3 SIGRTMAX=64 SIGRTMIN=34",
       "SIGSEGV=11 SIGSTKFLT=16 SIGSTOP=19 SIGSYS=31 SIGTERM=15 SIGTRAP=5 SIGTSTP=20 SIGTTIN=21",
       "SIGTTOU=22 SIGURG=23 SIGUSR1=10 SIGUSR2=12 SIGVTALRM=26 SIGWINCH=28 SIGXCPU=24",
       "SIGXFSZ=25 SIG_BLOCK=0 SIG_DFL=0 SIG_IGN=1 SIG_SETMASK=2 SIG_UNBLOCK=1"]),
    ("socket",
      ["AF_ALG=38 AF_APPLETALK=5 AF_ASH=18 AF_ATMPVC=8 AF_ATMSVC=20 AF_AX25=3 AF_BRIDGE=7",
       "AF_CAN=29 AF_DECnet=12 AF_ECONET=19 AF_INET=2 AF_INET6=10 AF_IPX=4 AF_IRDA=23 AF_KEY=15",
       "AF_LLC=26 AF_NETBEUI=13 AF_NETLINK=16 AF_NETROM=6 AF_PACKET=17 AF_PPPOX=24 AF_RDS=21",
       "AF_ROSE=11 AF_ROUTE=16 AF_SECURITY=14 AF_SNA=22 AF_TIPC=30 AF_UNIX=1 AF_UNSPEC=0",
       "AF_WANPIPE=25 AF_X25=9 AI_ADDRCONFIG=32 AI_ALL=16 AI_CANONNAME=2 AI_NUMERICHOST=4",
       "AI_NUMERICSERV=1024 AI_PASSIVE=1 AI_V4MAPPED=8 ALG_OP_DECRYPT=0 ALG_OP_ENCRYPT=1",
       "ALG_OP_SIGN=2 ALG_OP_VERIFY=3 ALG_SET_AEAD_ASSOCLEN=4 ALG_SET_AEAD_AUTHSIZE=5",
       "ALG_SET_IV=2 ALG_SET_KEY=1 ALG_SET_OP=3 ALG_SET_PUBKEY=6 CAN_BCM=2",
       "CAN_BCM_RX_ANNOUNCE_RESUME=256 CAN_BCM_RX_CHANGED=12 CAN_BCM_RX_CHECK_DLC=64",
       "CAN_BCM_RX_DELETE=6 CAN_BCM_RX_FILTER_ID=32 CAN_BCM_RX_NO_AUTOTIMER=128",
       "CAN_BCM_RX_READ=7 CAN_BCM_RX_RTR_FRAME=1024 CAN_BCM_RX_SETUP=5 CAN_BCM_RX_STATUS=10",
       "CAN_BCM_RX_TIMEOUT=11 CAN_BCM_SETTIMER=1 CAN_BCM_STARTTIMER=2 CAN_BCM_TX_ANNOUNCE=8",
       "CAN_BCM_TX_COUNTEVT=4 CAN_BCM_TX_CP_CAN_ID=16 CAN_BCM_TX_DELETE=2 CAN_BCM_TX_EXPIRED=9",
       "CAN_BCM_TX_READ=3 CAN_BCM_TX_RESET_MULTI_IDX=512 CAN_BCM_TX_SEND=4 CAN_BCM_TX_SETUP=1",
       "CAN_BCM_TX_STATUS=8 CAN_EFF_FLAG=2147483648 CAN_EFF_MASK=536870911",
       "CAN_ERR_FLAG=536870912 CAN_ERR_MASK=536870911 CAN_ISOTP=6 CAN_RAW=1 CAN_RAW_FD_FRAMES=5",
       "CAN_RAW_FILTER=1 CAN_RAW_LOOPBACK=3 CAN_RAW_RECV_OWN_MSGS=4 CAN_RTR_FLAG=1073741824",
       "CAN_SFF_MASK=2047 EAGAIN=11 EAI_ADDRFAMILY=-9 EAI_AGAIN=-3 EAI_BADFLAGS=-1 EAI_FAIL=-4",
       "EAI_FAMILY=-6 EAI_MEMORY=-10 EAI_NODATA=-5 EAI_NONAME=-2 EAI_OVERFLOW=-12 EAI_SERVICE=-8",
       "EAI_SOCKTYPE=-7 EAI_SYSTEM=-11 EBADF=9 EWOULDBLOCK=11 INADDR_ALLHOSTS_GROUP=3758096385",
       "INADDR_ANY=0 INADDR_BROADCAST=4294967295 INADDR_LOOPBACK=2130706433",
       "INADDR_MAX_LOCAL_GROUP=3758096639 INADDR_NONE=4294967295 INADDR_UNSPEC_GROUP=3758096384",
       "IPPORT_RESERVED=1024 IPPORT_USERRESERVED=5000 IPPROTO_AH=51 IPPROTO_DSTOPTS=60",
       "IPPROTO_EGP=8 IPPROTO_ESP=50 IPPROTO_FRAGMENT=44 IPPROTO_GRE=47 IPPROTO_HOPOPTS=0",
       "IPPROTO_ICMP=1 IPPROTO_ICMPV6=58 IPPROTO_IDP=22 IPPROTO_IGMP=2 IPPROTO_IP=0",
       "IPPROTO_IPIP=4 IPPROTO_IPV6=41 IPPROTO_NONE=59 IPPROTO_PIM=103 IPPROTO_PUP=12",
       "IPPROTO_RAW=255 IPPROTO_ROUTING=43 IPPROTO_RSVP=46 IPPROTO_SCTP=132 IPPROTO_TCP=6",
       "IPPROTO_TP=29 IPPROTO_UDP=17 IPPROTO_UDPLITE=136 IPV6_CHECKSUM=7 IPV6_DSTOPTS=59",
       "IPV6_HOPLIMIT=52 IPV6_HOPOPTS=54 IPV6_JOIN_GROUP=20 IPV6_LEAVE_GROUP=21",
       "IPV6_MULTICAST_HOPS=18 IPV6_MULTICAST_IF=17 IPV6_MULTICAST_LOOP=19 IPV6_NEXTHOP=9",
       "IPV6_PKTINFO=50 IPV6_RECVDSTOPTS=58 IPV6_RECVHOPLIMIT=51 IPV6_RECVHOPOPTS=53",
       "IPV6_RECVPKTINFO=49 IPV6_RECVRTHDR=56 IPV6_RECVTCLASS=66 IPV6_RTHDR=57",
       "IPV6_RTHDRDSTOPTS=55 IPV6_RTHDR_TYPE_0=0 IPV6_TCLASS=67 IPV6_UNICAST_HOPS=16",
       "IPV6_V6ONLY=26 IP_ADD_MEMBERSHIP=35 IP_DEFAULT_MULTICAST_LOOP=1",
       "IP_DEFAULT_MULTICAST_TTL=1 IP_DROP_MEMBERSHIP=36 IP_HDRINCL=3 IP_MAX_MEMBERSHIPS=20",
       "IP_MULTICAST_IF=32 IP_MULTICAST_LOOP=34 IP_MULTICAST_TTL=33 IP_OPTIONS=4 IP_RECVOPTS=6",
       "IP_RECVRETOPTS=7 IP_RECVTOS=13 IP_RETOPTS=7 IP_TOS=1 IP_TRANSPARENT=19 IP_TTL=2",
       "MSG_CMSG_CLOEXEC=1073741824 MSG_CONFIRM=2048 MSG_CTRUNC=8 MSG_DONTROUTE=4",
       "MSG_DONTWAIT=64 MSG_EOR=128 MSG_ERRQUEUE=8192 MSG_FASTOPEN=536870912 MSG_MORE=32768",
       "MSG_NOSIGNAL=16384 MSG_OOB=1 MSG_PEEK=2 MSG_TRUNC=32 MSG_WAITALL=256 NETLINK_CRYPTO=21",
       "NETLINK_DNRTMSG=14 NETLINK_FIREWALL=3 NETLINK_IP6_FW=13 NETLINK_NFLOG=5 NETLINK_ROUTE=0",
       "NETLINK_USERSOCK=2 NETLINK_XFRM=6 NI_DGRAM=16 NI_MAXHOST=1025 NI_MAXSERV=32",
       "NI_NAMEREQD=8 NI_NOFQDN=4 NI_NUMERICHOST=1 NI_NUMERICSERV=2 PACKET_BROADCAST=1",
       "PACKET_FASTROUTE=6 PACKET_HOST=0 PACKET_LOOPBACK=5 PACKET_MULTICAST=2 PACKET_OTHERHOST=3",
       "PACKET_OUTGOING=4 PF_CAN=29 PF_PACKET=17 PF_RDS=21 SCM_CREDENTIALS=2 SCM_RIGHTS=1",
       "SHUT_RD=0 SHUT_RDWR=2 SHUT_WR=1 SOCK_CLOEXEC=524288 SOCK_DGRAM=2 SOCK_NONBLOCK=2048",
       "SOCK_RAW=3 SOCK_RDM=4 SOCK_SEQPACKET=5 SOCK_STREAM=1 SOL_ALG=279 SOL_CAN_BASE=100",
       "SOL_CAN_RAW=101 SOL_IP=0 SOL_SOCKET=1 SOL_TCP=6 SOL_TIPC=271 SOL_UDP=17 SOMAXCONN=128",
       "SO_ACCEPTCONN=30 SO_BINDTODEVICE=25 SO_BROADCAST=6 SO_DEBUG=1 SO_DOMAIN=39",
       "SO_DONTROUTE=5 SO_ERROR=4 SO_KEEPALIVE=9 SO_LINGER=13 SO_MARK=36 SO_OOBINLINE=10",
       "SO_PASSCRED=16 SO_PASSSEC=34 SO_PEERCRED=17 SO_PEERSEC=31 SO_PRIORITY=12 SO_PROTOCOL=38",
       "SO_RCVBUF=8 SO_RCVLOWAT=18 SO_RCVTIMEO=20 SO_REUSEADDR=2 SO_REUSEPORT=15 SO_SNDBUF=7",
       "SO_SNDLOWAT=19 SO_SNDTIMEO=21 SO_TYPE=3 TCP_CONGESTION=13 TCP_CORK=3 TCP_DEFER_ACCEPT=9",
       "TCP_FASTOPEN=23 TCP_INFO=11 TCP_KEEPCNT=6 TCP_KEEPIDLE=4 TCP_KEEPINTVL=5 TCP_LINGER2=8",
       "TCP_MAXSEG=2 TCP_NODELAY=1 TCP_QUICKACK=12 TCP_SYNCNT=7 TCP_USER_TIMEOUT=18",
       "TCP_WINDOW_CLAMP=10 TIPC_ADDR_ID=3 TIPC_ADDR_NAME=2 TIPC_ADDR_NAMESEQ=1 TIPC_CFG_SRV=0",
       "TIPC_CLUSTER_SCOPE=2 TIPC_CONN_TIMEOUT=130 TIPC_CRITICAL_IMPORTANCE=3",
       "TIPC_DEST_DROPPABLE=129 TIPC_HIGH_IMPORTANCE=2 TIPC_IMPORTANCE=127 TIPC_LOW_IMPORTANCE=0",
       "TIPC_MEDIUM_IMPORTANCE=1 TIPC_NODE_SCOPE=3 TIPC_PUBLISHED=1 TIPC_SRC_DROPPABLE=128",
       "TIPC_SUBSCR_TIMEOUT=3 TIPC_SUB_CANCEL=4 TIPC_SUB_PORTS=1 TIPC_SUB_SERVICE=2",
       "TIPC_TOP_SRV=1 TIPC_WAIT_FOREVER=-1 TIPC_WITHDRAWN=2 TIPC_ZONE_SCOPE=1",
       "UDPLITE_RECV_CSCOV=11 UDPLITE_SEND_CSCOV=10"]),
    ("ssl",
      ["ALERT_DESCRIPTION_ACCESS_DENIED=49 ALERT_DESCRIPTION_BAD_CERTIFICATE=42",
       "ALERT_DESCRIPTION_BAD_CERTIFICATE_HASH_VALUE=114",
       "ALERT_DESCRIPTION_BAD_CERTIFICATE_STATUS_RESPONSE=113",
       "ALERT_DESCRIPTION_BAD_RECORD_MAC=20 ALERT_DESCRIPTION_CERTIFICATE_EXPIRED=45",
       "ALERT_DESCRIPTION_CERTIFICATE_REVOKED=44 ALERT_DESCRIPTION_CERTIFICATE_UNKNOWN=46",
       "ALERT_DESCRIPTION_CERTIFICATE_UNOBTAINABLE=111 ALERT_DESCRIPTION_CLOSE_NOTIFY=0",
       "ALERT_DESCRIPTION_DECODE_ERROR=50 ALERT_DESCRIPTION_DECOMPRESSION_FAILURE=30",
       "ALERT_DESCRIPTION_DECRYPT_ERROR=51 ALERT_DESCRIPTION_HANDSHAKE_FAILURE=40",
       "ALERT_DESCRIPTION_ILLEGAL_PARAMETER=47 ALERT_DESCRIPTION_INSUFFICIENT_SECURITY=71",
       "ALERT_DESCRIPTION_INTERNAL_ERROR=80 ALERT_DESCRIPTION_NO_RENEGOTIATION=100",
       "ALERT_DESCRIPTION_PROTOCOL_VERSION=70 ALERT_DESCRIPTION_RECORD_OVERFLOW=22",
       "ALERT_DESCRIPTION_UNEXPECTED_MESSAGE=10 ALERT_DESCRIPTION_UNKNOWN_CA=48",
       "ALERT_DESCRIPTION_UNKNOWN_PSK_IDENTITY=115 ALERT_DESCRIPTION_UNRECOGNIZED_NAME=112",
       "ALERT_DESCRIPTION_UNSUPPORTED_CERTIFICATE=43 ALERT_DESCRIPTION_UNSUPPORTED_EXTENSION=110",
       "ALERT_DESCRIPTION_USER_CANCELLED=90 CERT_NONE=0 CERT_OPTIONAL=1 CERT_REQUIRED=2",
       "OP_ALL=2147483728 OP_CIPHER_SERVER_PREFERENCE=4194304 OP_ENABLE_MIDDLEBOX_COMPAT=1048576",
       "OP_IGNORE_UNEXPECTED_EOF=128 OP_NO_COMPRESSION=131072 OP_NO_RENEGOTIATION=1073741824",
       "OP_NO_SSLv2=0 OP_NO_SSLv3=33554432 OP_NO_TICKET=16384 OP_NO_TLSv1=67108864",
       "OP_NO_TLSv1_1=268435456 OP_NO_TLSv1_2=134217728 OP_NO_TLSv1_3=536870912",
       "OP_SINGLE_DH_USE=0 OP_SINGLE_ECDH_USE=0 PROTOCOL_SSLv23=2 PROTOCOL_TLS=2",
       "PROTOCOL_TLS_CLIENT=16 PROTOCOL_TLS_SERVER=17 PROTOCOL_TLSv1=3 PROTOCOL_TLSv1_1=4",
       "PROTOCOL_TLSv1_2=5 SOCK_STREAM=1 SOL_SOCKET=1 SO_TYPE=3 SSL_ERROR_EOF=8",
       "SSL_ERROR_INVALID_ERROR_CODE=10 SSL_ERROR_SSL=1 SSL_ERROR_SYSCALL=5",
       "SSL_ERROR_WANT_CONNECT=7 SSL_ERROR_WANT_READ=2 SSL_ERROR_WANT_WRITE=3",
       "SSL_ERROR_WANT_X509_LOOKUP=4 SSL_ERROR_ZERO_RETURN=6 VERIFY_ALLOW_PROXY_CERTS=64",
       "VERIFY_CRL_CHECK_CHAIN=12 VERIFY_CRL_CHECK_LEAF=4 VERIFY_DEFAULT=0",
       "VERIFY_X509_PARTIAL_CHAIN=524288 VERIFY_X509_STRICT=32 VERIFY_X509_TRUSTED_FIRST=32768"]),
    ("stat",
      ["FILE_ATTRIBUTE_ARCHIVE=32 FILE_ATTRIBUTE_COMPRESSED=2048 FILE_ATTRIBUTE_DEVICE=64",
       "FILE_ATTRIBUTE_DIRECTORY=16 FILE_ATTRIBUTE_ENCRYPTED=16384 FILE_ATTRIBUTE_HIDDEN=2",
       "FILE_ATTRIBUTE_INTEGRITY_STREAM=32768 FILE_ATTRIBUTE_NORMAL=128",
       "FILE_ATTRIBUTE_NOT_CONTENT_INDEXED=8192 FILE_ATTRIBUTE_NO_SCRUB_DATA=131072",
       "FILE_ATTRIBUTE_OFFLINE=4096 FILE_ATTRIBUTE_READONLY=1 FILE_ATTRIBUTE_REPARSE_POINT=1024",
       "FILE_ATTRIBUTE_SPARSE_FILE=512 FILE_ATTRIBUTE_SYSTEM=4 FILE_ATTRIBUTE_TEMPORARY=256",
       "FILE_ATTRIBUTE_VIRTUAL=65536 SF_APPEND=262144 SF_ARCHIVED=65536 SF_IMMUTABLE=131072",
       "SF_NOUNLINK=1048576 SF_SNAPSHOT=2097152 ST_ATIME=7 ST_CTIME=9 ST_DEV=2 ST_GID=5 ST_INO=1",
       "ST_MODE=0 ST_MTIME=8 ST_NLINK=3 ST_SIZE=6 ST_UID=4 S_ENFMT=1024 S_IEXEC=64 S_IFBLK=24576",
       "S_IFCHR=8192 S_IFDIR=16384 S_IFDOOR=0 S_IFIFO=4096 S_IFLNK=40960 S_IFPORT=0",
       "S_IFREG=32768 S_IFSOCK=49152 S_IFWHT=0 S_IREAD=256 S_IRGRP=32 S_IROTH=4 S_IRUSR=256",
       "S_IRWXG=56 S_IRWXO=7 S_IRWXU=448 S_ISGID=1024 S_ISUID=2048 S_ISVTX=512 S_IWGRP=16",
       "S_IWOTH=2 S_IWRITE=128 S_IWUSR=128 S_IXGRP=8 S_IXOTH=1 S_IXUSR=64 UF_APPEND=4",
       "UF_COMPRESSED=32 UF_HIDDEN=32768 UF_IMMUTABLE=2 UF_NODUMP=1 UF_NOUNLINK=16 UF_OPAQUE=8"]),
    ("subprocess",
      ["DEVNULL=-3 PIPE=-1 STDOUT=-2"]),
    ("sys",
      ["api_version=1013 maxsize=9223372036854775807 maxunicode=1114111"]),
    ("tempfile",
      ["TMP_MAX=238328"]),
    ("time",
      ["CLOCK_BOOTTIME=7 CLOCK_MONOTONIC=1 CLOCK_MONOTONIC_RAW=4 CLOCK_PROCESS_CPUTIME_ID=2",
       "CLOCK_REALTIME=0 CLOCK_THREAD_CPUTIME_ID=3 altzone=0 daylight=0 timezone=0"]),
    ("token",
      ["AMPER=19 AMPEREQUAL=41 ASYNC=56 AT=49 ATEQUAL=50 AWAIT=55 CIRCUMFLEX=32",
       "CIRCUMFLEXEQUAL=43 COLON=11 COLONEQUAL=53 COMMA=12 COMMENT=61 DEDENT=6 DOT=23",
       "DOUBLESLASH=47 DOUBLESLASHEQUAL=48 DOUBLESTAR=35 DOUBLESTAREQUAL=46 ELLIPSIS=52",
       "ENCODING=63 ENDMARKER=0 EQEQUAL=27 EQUAL=22 ERRORTOKEN=60 GREATER=21 GREATEREQUAL=30",
       "INDENT=5 LBRACE=25 LEFTSHIFT=33 LEFTSHIFTEQUAL=44 LESS=20 LESSEQUAL=29 LPAR=7 LSQB=9",
       "MINEQUAL=37 MINUS=15 NAME=1 NEWLINE=4 NL=62 NOTEQUAL=28 NT_OFFSET=256 NUMBER=2",
       "N_TOKENS=64 OP=54 PERCENT=24 PERCENTEQUAL=40 PLUS=14 PLUSEQUAL=36 RARROW=51 RBRACE=26",
       "RIGHTSHIFT=34 RIGHTSHIFTEQUAL=45 RPAR=8 RSQB=10 SEMI=13 SLASH=17 SLASHEQUAL=39",
       "SOFT_KEYWORD=59 STAR=16 STAREQUAL=38 STRING=3 TILDE=31 TYPE_COMMENT=58 TYPE_IGNORE=57",
       "VBAR=18 VBAREQUAL=42"]),
    ("tokenize",
      ["AMPER=19 AMPEREQUAL=41 ASYNC=56 AT=49 ATEQUAL=50 AWAIT=55 CIRCUMFLEX=32",
       "CIRCUMFLEXEQUAL=43 COLON=11 COLONEQUAL=53 COMMA=12 COMMENT=61 DEDENT=6 DOT=23",
       "DOUBLESLASH=47 DOUBLESLASHEQUAL=48 DOUBLESTAR=35 DOUBLESTAREQUAL=46 ELLIPSIS=52",
       "ENCODING=63 ENDMARKER=0 EQEQUAL=27 EQUAL=22 ERRORTOKEN=60 GREATER=21 GREATEREQUAL=30",
       "INDENT=5 LBRACE=25 LEFTSHIFT=33 LEFTSHIFTEQUAL=44 LESS=20 LESSEQUAL=29 LPAR=7 LSQB=9",
       "MINEQUAL=37 MINUS=15 NAME=1 NEWLINE=4 NL=62 NOTEQUAL=28 NT_OFFSET=256 NUMBER=2",
       "N_TOKENS=64 OP=54 PERCENT=24 PERCENTEQUAL=40 PLUS=14 PLUSEQUAL=36 RARROW=51 RBRACE=26",
       "RIGHTSHIFT=34 RIGHTSHIFTEQUAL=45 RPAR=8 RSQB=10 SEMI=13 SLASH=17 SLASHEQUAL=39",
       "SOFT_KEYWORD=59 STAR=16 STAREQUAL=38 STRING=3 TILDE=31 TYPE_COMMENT=58 TYPE_IGNORE=57",
       "VBAR=18 VBAREQUAL=42 tabsize=8"]),
    ("zipfile",
      ["BZIP2_VERSION=46 DEFAULT_VERSION=20 LZMA_VERSION=63 MAX_EXTRACT_VERSION=63",
       "ZIP64_LIMIT=2147483647 ZIP64_VERSION=45 ZIP_BZIP2=12 ZIP_DEFLATED=8",
       "ZIP_FILECOUNT_LIMIT=65535 ZIP_LZMA=14 ZIP_MAX_COMMENT=65535 ZIP_STORED=0",
       "sizeCentralDir=46 sizeEndCentDir=22 sizeEndCentDir64=56 sizeEndCentDir64Locator=20",
       "sizeFileHeader=30"]),
    ("zlib",
      ["DEFLATED=8 DEF_BUF_SIZE=16384 DEF_MEM_LEVEL=8 MAX_WBITS=15 Z_BEST_COMPRESSION=9",
       "Z_BEST_SPEED=1 Z_BLOCK=5 Z_DEFAULT_COMPRESSION=-1 Z_DEFAULT_STRATEGY=0 Z_FILTERED=1",
       "Z_FINISH=4 Z_FIXED=4 Z_FULL_FLUSH=3 Z_HUFFMAN_ONLY=2 Z_NO_COMPRESSION=0 Z_NO_FLUSH=0",
       "Z_PARTIAL_FLUSH=1 Z_RLE=3 Z_SYNC_FLUSH=2 Z_TREES=6"])]

end SdkGen.Yaml
