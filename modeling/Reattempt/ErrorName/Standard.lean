import Reattempt.ErrorName.Listing
/-!
# Names of the standard library

The modules that policy files take error classes from. Those of the first list are listed with their
other names, those of the second with their error classes alone.
-/
set_option autoImplicit false

namespace Reattempt.ErrorName

def standardModules : List (String × Listing) := [
  ("os", listing
    ["error OSError"]
    ["DirEntry EX_OK F_OK GenericAlias Mapping MutableMapping O_CREAT O_RDONLY O_RDWR O_WRONLY",
     "P_NOWAIT P_WAIT PathLike R_OK SEEK_CUR SEEK_END SEEK_SET W_OK X_OK __all__ __builtins__",
     "__file__ abc abort access altsep chdir chmod chown chroot close closerange confstr",
     "confstr_names cpu_count ctermid curdir defpath device_encoding devnull dup dup2 environ",
     "environb eventfd eventfd_read eventfd_write execl execle execlp execlpe execv execve",
     "execvp execvpe extsep fchdir fchmod fchown fdatasync fdopen fork forkpty fpathconf",
     "fsdecode fsencode fspath fstat fstatvfs fsync ftruncate fwalk get_blocking get_exec_path",
     "get_inheritable get_terminal_size getcwd getcwdb getegid getenv getenvb geteuid getgid",
     "getgrouplist getgroups getloadavg getlogin getpgid getpgrp getpid getppid getpriority",
     "getresgid getresuid getsid getuid getxattr initgroups isatty kill killpg lchown linesep",
     "link listdir listxattr lockf login_tty lseek lstat major makedev makedirs minor mkdir",
     "mkfifo mknod name nice open openpty pardir path pathconf pathconf_names pathsep pipe pipe2",
     "popen posix_fadvise posix_fallocate posix_spawn posix_spawnp pread preadv putenv pwrite",
     "pwritev read readlink readv register_at_fork remove removedirs removexattr rename renames",
     "replace rmdir scandir sched_get_priority_max sched_get_priority_min sched_getaffinity",
     "sched_getparam sched_getscheduler sched_param sched_rr_get_interval sched_setaffinity",
     "sched_setparam sched_setscheduler sched_yield sendfile sep set_blocking set_inheritable",
     "setegid seteuid setgid setgroups setpgid setpgrp setpriority setregid setresgid setresuid",
     "setreuid setsid setuid setxattr spawnl spawnle spawnlp spawnlpe spawnv spawnve spawnvp",
     "spawnvpe splice st stat stat_result statvfs statvfs_result strerror supports_bytes_environ",
     "supports_dir_fd supports_effective_ids supports_fd supports_follow_symlinks symlink sync",
     "sys sysconf sysconf_names system tcgetpgrp tcsetpgrp terminal_size times times_result",
     "truncate ttyname umask uname uname_result unlink unsetenv urandom utime wait wait3 wait4",
     "waitid waitid_result waitpid waitstatus_to_exitcode walk write writev"]),
  ("os.path", listing
    []
    ["__all__ __builtins__ __file__ abspath altsep basename commonpath commonprefix curdir",
     "defpath devnull dirname exists expanduser expandvars extsep genericpath getatime getctime",
     "getmtime getsize isabs isdir isfile islink ismount join lexists normcase normpath os",
     "pardir pathsep realpath relpath samefile sameopenfile samestat sep split splitdrive",
     "splitext stat supports_unicode_filenames sys"]),
  ("json", listing
    ["JSONDecodeError json.decoder.JSONDecodeError ValueError"]
    ["JSONDecoder JSONEncoder __all__ __author__ __builtins__ __cached__ __file__ __path__",
     "__version__ codecs decoder detect_encoding dump dumps encoder load loads scanner"]),
  ("json.decoder", listing
    ["JSONDecodeError json.decoder.JSONDecodeError ValueError"]
    ["BACKSLASH FLAGS JSONArray JSONDecoder JSONObject NaN NegInf PosInf STRINGCHUNK WHITESPACE",
     "WHITESPACE_STR __all__ __builtins__ __cached__ __file__ c_scanstring py_scanstring re",
     "scanner scanstring"]),
  ("json.encoder", listing
    []
    ["ESCAPE ESCAPE_ASCII ESCAPE_DCT HAS_UTF8 INFINITY JSONEncoder __builtins__ __cached__",
     "__file__ c_encode_basestring c_encode_basestring_ascii c_make_encoder encode_basestring",
     "encode_basestring_ascii py_encode_basestring py_encode_basestring_ascii re"]),
  ("json.scanner", listing
    []
    ["NUMBER_RE __all__ __builtins__ __cached__ __file__ c_make_scanner make_scanner",
     "py_make_scanner re"]),
  ("socket", listing
    ["error OSError",
      "timeout TimeoutError",
      "_GiveupOnSendfile socket._GiveupOnSendfile",
      "gaierror socket.gaierror OSError",
      "herror socket.herror OSError"]
    ["AF_DECnet AF_INET AF_INET6 AF_UNIX AddressFamily AddressInfo IntEnum IntFlag MsgFlag",
     "SOCK_DGRAM SOCK_STREAM SOL_SOCKET SO_REUSEADDR SocketIO SocketKind SocketType __all__",
     "__builtins__ __cached__ __file__ array close create_connection create_server dup errno",
     "fromfd getaddrinfo getdefaulttimeout getfqdn gethostbyaddr gethostbyname gethostbyname_ex",
     "gethostname getnameinfo getprotobyname getservbyname getservbyport has_dualstack_ipv6",
     "has_ipv6 htonl htons if_indextoname if_nameindex if_nametoindex inet_aton inet_ntoa",
     "inet_ntop inet_pton io ntohl ntohs os recv_fds selectors send_fds setdefaulttimeout",
     "sethostname socket socketpair sys"]),
  ("asyncio", listing
    ["TimeoutError TimeoutError",
      "BrokenBarrierError asyncio.exceptions.BrokenBarrierError RuntimeError",
      "CancelledError asyncio.exceptions.CancelledError BaseException",
      "IncompleteReadError asyncio.exceptions.IncompleteReadError EOFError",
      "InvalidStateError asyncio.exceptions.InvalidStateError",
      "LimitOverrunError asyncio.exceptions.LimitOverrunError",
      "QueueEmpty asyncio.queues.QueueEmpty",
      "QueueFull asyncio.queues.QueueFull",
      "SendfileNotAvailableError asyncio.exceptions.SendfileNotAvailableError RuntimeError"]
    ["ALL_COMPLETED AbstractChildWatcher AbstractEventLoop AbstractEventLoopPolicy",
     "AbstractServer Barrier BaseEventLoop BaseProtocol BaseTransport BoundedSemaphore",
     "BufferedProtocol Condition DatagramProtocol DatagramTransport DefaultEventLoopPolicy Event",
     "FIRST_COMPLETED FIRST_EXCEPTION FastChildWatcher Future Handle LifoQueue Lock",
     "MultiLoopChildWatcher PidfdChildWatcher PriorityQueue Protocol Queue ReadTransport Runner",
     "SafeChildWatcher SelectorEventLoop Semaphore Server StreamReader StreamReaderProtocol",
     "StreamWriter SubprocessProtocol SubprocessTransport Task TaskGroup ThreadedChildWatcher",
     "Timeout TimerHandle Transport WriteTransport __all__ __builtins__ __cached__ __file__",
     "__path__ all_tasks as_completed base_events base_futures base_subprocess base_tasks",
     "constants coroutines create_subprocess_exec create_subprocess_shell create_task",
     "current_task ensure_future events exceptions format_helpers futures gather",
     "get_child_watcher get_event_loop get_event_loop_policy get_running_loop iscoroutine",
     "iscoroutinefunction isfuture locks log mixins new_event_loop open_connection",
     "open_unix_connection protocols queues run run_coroutine_threadsafe runners selector_events",
     "set_child_watcher set_event_loop set_event_loop_policy shield sleep sslproto staggered",
     "start_server start_unix_server streams subprocess sys taskgroups tasks threads timeout",
     "timeout_at timeouts to_thread transports trsock unix_events wait wait_for wrap_future"]),
  ("asyncio.exceptions", listing
    ["TimeoutError TimeoutError",
      "BrokenBarrierError asyncio.exceptions.BrokenBarrierError RuntimeError",
      "CancelledError asyncio.exceptions.CancelledError BaseException",
      "IncompleteReadError asyncio.exceptions.IncompleteReadError EOFError",
      "InvalidStateError asyncio.exceptions.InvalidStateError",
      "LimitOverrunError asyncio.exceptions.LimitOverrunError",
      "SendfileNotAvailableError asyncio.exceptions.SendfileNotAvailableError RuntimeError"]
    ["__all__ __builtins__ __cached__ __file__"]),
  ("concurrent", listing
    []
    ["__builtins__ __cached__ __file__ __path__ futures"]),
  ("concurrent.futures", listing
    ["TimeoutError TimeoutError",
      "BrokenExecutor concurrent.futures._base.BrokenExecutor RuntimeError",
      "CancelledError concurrent.futures._base.CancelledError concurrent.futures._base.Error"]
    ["ALL_COMPLETED Executor FIRST_COMPLETED FIRST_EXCEPTION Future ProcessPoolExecutor",
     "ThreadPoolExecutor __author__ as_completed wait"]),
  ("subprocess", listing
    ["CalledProcessError subprocess.CalledProcessError subprocess.SubprocessError",
      "SubprocessError subprocess.SubprocessError",
      "TimeoutExpired subprocess.TimeoutExpired subprocess.SubprocessError"]
    ["CompletedProcess DEVNULL PIPE Popen STDOUT __all__ __builtins__ __cached__ __file__",
     "builtins call check_call check_output contextlib errno fcntl getoutput getstatusoutput io",
     "list2cmdline locale os run select selectors signal sys threading time types warnings"]),
  ("zipfile", listing
    ["BadZipFile zipfile.BadZipFile",
      "BadZipfile zipfile.BadZipFile",
      "LargeZipFile zipfile.LargeZipFile",
      "error zipfile.BadZipFile"]
    ["BZIP2_VERSION CompleteDirs DEFAULT_VERSION FastLookup LZMACompressor LZMADecompressor",
     "LZMA_VERSION MAX_EXTRACT_VERSION Path PyZipFile ZIP64_LIMIT ZIP64_VERSION ZIP_BZIP2",
     "ZIP_DEFLATED ZIP_FILECOUNT_LIMIT ZIP_LZMA ZIP_MAX_COMMENT ZIP_STORED ZipExtFile ZipFile",
     "ZipInfo __all__ __builtins__ __cached__ __file__ binascii bz2 compressor_names contextlib",
     "crc32 importlib io is_zipfile itertools lzma main os pathlib posixpath re shutil",
     "sizeCentralDir sizeEndCentDir sizeEndCentDir64 sizeEndCentDir64Locator sizeFileHeader stat",
     "stringCentralDir stringEndArchive stringEndArchive64 stringEndArchive64Locator",
     "stringFileHeader struct structCentralDir structEndArchive structEndArchive64",
     "structEndArchive64Locator structFileHeader sys threading time zlib"]),
  ("decimal", listing
    ["Clamped decimal.Clamped decimal.DecimalException ArithmeticError",
      "ConversionSyntax decimal.ConversionSyntax " ++
        "decimal.InvalidOperation decimal.DecimalException ArithmeticError",
      "DecimalException decimal.DecimalException ArithmeticError",
      "DivisionByZero decimal.DivisionByZero " ++
        "decimal.DecimalException ZeroDivisionError ArithmeticError",
      "DivisionImpossible decimal.DivisionImpossible " ++
        "decimal.InvalidOperation decimal.DecimalException ArithmeticError",
      "DivisionUndefined decimal.DivisionUndefined decimal.InvalidOperation " ++
        "decimal.DecimalException ZeroDivisionError ArithmeticError",
      "FloatOperation decimal.FloatOperation decimal.DecimalException ArithmeticError TypeError",
      "Inexact decimal.Inexact decimal.DecimalException ArithmeticError",
      "InvalidContext decimal.InvalidContext " ++
        "decimal.InvalidOperation decimal.DecimalException ArithmeticError",
      "InvalidOperation decimal.InvalidOperation decimal.DecimalException ArithmeticError",
      "Overflow decimal.Overflow decimal.Inexact " ++
        "decimal.Rounded decimal.DecimalException ArithmeticError",
      "Rounded decimal.Rounded decimal.DecimalException ArithmeticError",
      "Subnormal decimal.Subnormal decimal.DecimalException ArithmeticError",
      "Underflow decimal.Underflow decimal.Inexact " ++
        "decimal.Rounded decimal.Subnormal decimal.DecimalException ArithmeticError"]
    ["BasicContext Context Decimal DecimalTuple DefaultContext ExtendedContext HAVE_CONTEXTVAR",
     "HAVE_THREADS MAX_EMAX MAX_PREC MIN_EMIN MIN_ETINY ROUND_05UP ROUND_CEILING ROUND_DOWN",
     "ROUND_FLOOR ROUND_HALF_DOWN ROUND_HALF_EVEN ROUND_HALF_UP ROUND_UP __builtins__ __cached__",
     "__file__ __version__ getcontext localcontext setcontext"]),
  ("queue", listing
    ["Empty _queue.Empty",
      "Full queue.Full"]
    ["LifoQueue PriorityQueue Queue SimpleQueue __all__ __builtins__ __cached__ __file__ deque",
     "heappop heappush threading time types"]),
  ("urllib", listing
    []
    ["__builtins__ __cached__ __file__ __path__ parse"]),
  ("urllib.error", listing
    ["ContentTooShortError urllib.error.ContentTooShortError urllib.error.URLError OSError",
      "HTTPError urllib.error.HTTPError urllib.error.URLError OSError",
      "URLError urllib.error.URLError OSError"]
    ["__all__ __builtins__ __cached__ __file__ io urllib"]),
  ("sys", listing
    []
    ["abiflags addaudithook api_version argv audit base_exec_prefix base_prefix breakpointhook",
     "builtin_module_names byteorder call_tracing copyright displayhook dont_write_bytecode",
     "exc_info excepthook exception exec_prefix executable exit flags float_info",
     "float_repr_style get_asyncgen_hooks get_coroutine_origin_tracking_depth",
     "get_int_max_str_digits getallocatedblocks getdefaultencoding getdlopenflags",
     "getfilesystemencodeerrors getfilesystemencoding getprofile getrecursionlimit getrefcount",
     "getsizeof getswitchinterval gettrace hash_info hexversion implementation int_info intern",
     "is_finalizing maxsize maxunicode meta_path modules orig_argv path path_hooks",
     "path_importer_cache platform platlibdir prefix pycache_prefix set_asyncgen_hooks",
     "set_coroutine_origin_tracking_depth set_int_max_str_digits setdlopenflags setprofile",
     "setrecursionlimit setswitchinterval settrace stderr stdin stdlib_module_names stdout",
     "thread_info unraisablehook version version_info warnoptions"]),
  ("re", listing
    ["error re.error"]
    ["A ASCII DEBUG DOTALL I IGNORECASE L LOCALE M MULTILINE Match NOFLAG Pattern RegexFlag S",
     "Scanner T TEMPLATE U UNICODE VERBOSE X __all__ __builtins__ __cached__ __file__ __path__",
     "__version__ compile copyreg enum escape findall finditer fullmatch functools match purge",
     "search split sub subn template"]),
  ("time", listing
    []
    ["CLOCK_BOOTTIME CLOCK_MONOTONIC CLOCK_MONOTONIC_RAW CLOCK_PROCESS_CPUTIME_ID CLOCK_REALTIME",
     "CLOCK_THREAD_CPUTIME_ID altzone asctime clock_getres clock_gettime clock_gettime_ns",
     "clock_settime clock_settime_ns ctime daylight get_clock_info gmtime localtime mktime",
     "monotonic monotonic_ns perf_counter perf_counter_ns process_time process_time_ns",
     "pthread_getcpuclockid sleep strftime strptime struct_time thread_time thread_time_ns time",
     "time_ns timezone tzname tzset"]),
  ("math", listing
    []
    ["acos acosh asin asinh atan atan2 atanh cbrt ceil comb copysign cos cosh degrees dist e erf",
     "erfc exp exp2 expm1 fabs factorial floor fmod frexp fsum gamma gcd hypot inf isclose",
     "isfinite isinf isnan isqrt lcm ldexp lgamma log log10 log1p log2 modf nan nextafter perm",
     "pi pow prod radians remainder sin sinh sqrt tan tanh tau trunc ulp"]),
  ("random", listing
    []
    ["BPF LOG4 NV_MAGICCONST RECIP_BPF Random SG_MAGICCONST SystemRandom TWOPI __all__",
     "__builtins__ __cached__ __file__ betavariate choice choices expovariate gammavariate gauss",
     "getrandbits getstate lognormvariate normalvariate paretovariate randbytes randint random",
     "randrange sample seed setstate shuffle triangular uniform vonmisesvariate weibullvariate"]),
  ("datetime", listing
    []
    ["MAXYEAR MINYEAR UTC __all__ __builtins__ __cached__ __file__ date datetime datetime_CAPI",
     "sys time timedelta timezone tzinfo"]),
  ("logging", listing
    []
    ["BASIC_FORMAT BufferingFormatter CRITICAL DEBUG ERROR FATAL FileHandler Filter Filterer",
     "Formatter GenericAlias Handler INFO LogRecord Logger LoggerAdapter Manager NOTSET",
     "NullHandler PercentStyle PlaceHolder RootLogger StrFormatStyle StreamHandler",
     "StringTemplateStyle Template WARN WARNING __all__ __author__ __builtins__ __cached__",
     "__file__ __path__ __version__ addLevelName atexit basicConfig captureWarnings collections",
     "critical currentframe debug disable error exception fatal getLevelName",
     "getLevelNamesMapping getLogRecordFactory getLogger getLoggerClass info io lastResort log",
     "logMultiprocessing logProcesses logThreads makeLogRecord os raiseExceptions re root",
     "setLogRecordFactory setLoggerClass shutdown sys threading time traceback warn warning",
     "warnings weakref"])]

def furtherErrors : List (String × List String) := [
  ("urllib.request",
    ["ContentTooShortError HTTPError URLError"]),
  ("struct",
    ["error"]),
  ("zlib",
    ["error"]),
  ("binascii",
    ["Error Incomplete"]),
  ("ssl",
    ["SSLCertVerificationError SSLEOFError SSLError SSLSyscallError SSLWantReadError",
     "SSLWantWriteError SSLZeroReturnError"]),
  ("http.client",
    ["BadStatusLine CannotSendHeader CannotSendRequest HTTPException ImproperConnectionState",
     "IncompleteRead InvalidURL LineTooLong NotConnected RemoteDisconnected ResponseNotReady",
     "UnimplementedFileMode UnknownProtocol UnknownTransferEncoding"]),
  ("configparser",
    ["DuplicateOptionError DuplicateSectionError Error InterpolationDepthError",
     "InterpolationError InterpolationMissingOptionError InterpolationSyntaxError",
     "MissingSectionHeaderError NoOptionError NoSectionError ParsingError"]),
  ("csv",
    ["Error"]),
  ("pickle",
    ["PickleError PicklingError UnpicklingError"]),
  ("xml.etree.ElementTree",
    ["ParseError"]),
  ("sqlite3",
    ["DataError DatabaseError Error IntegrityError InterfaceError InternalError",
     "NotSupportedError OperationalError ProgrammingError Warning"]),
  ("tarfile",
    ["AbsoluteLinkError AbsolutePathError CompressionError EOFHeaderError EmptyHeaderError",
     "ExtractError FilterError HeaderError InvalidHeaderError LinkOutsideDestinationError",
     "OutsideDestinationError ReadError SpecialFileError StreamError SubsequentHeaderError",
     "TarError TruncatedHeaderError"]),
  ("shutil",
    ["Error ExecError ReadError RegistryError SameFileError SpecialFileError"]),
  ("smtplib",
    ["SMTPAuthenticationError SMTPConnectError SMTPDataError SMTPException SMTPHeloError",
     "SMTPNotSupportedError SMTPRecipientsRefused SMTPResponseException SMTPSenderRefused",
     "SMTPServerDisconnected"]),
  ("ftplib",
    ["Error error_perm error_proto error_reply error_temp"]),
  ("threading",
    ["BrokenBarrierError"]),
  ("multiprocessing",
    ["AuthenticationError BufferTooShort ProcessError TimeoutError"]),
  ("copy",
    ["Error"]),
  ("dataclasses",
    ["FrozenInstanceError"]),
  ("io",
    ["UnsupportedOperation"]),
  ("statistics",
    ["StatisticsError"]),
  ("email.errors",
    ["BoundaryError CharsetError CloseBoundaryNotFoundDefect",
     "FirstHeaderLineIsContinuationDefect HeaderDefect HeaderMissingRequiredValue",
     "HeaderParseError HeaderWriteError InvalidBase64CharactersDefect",
     "InvalidBase64LengthDefect InvalidBase64PaddingDefect InvalidDateDefect",
     "InvalidHeaderDefect InvalidMultipartContentTransferEncodingDefect MessageDefect",
     "MessageError MessageParseError MisplacedEnvelopeHeaderDefect",
     "MissingHeaderBodySeparatorDefect MultipartConversionError",
     "MultipartInvariantViolationDefect NoBoundaryInMultipartDefect NonASCIILocalPartDefect",
     "NonPrintableDefect ObsoleteHeaderDefect StartBoundaryNotFoundDefect",
     "UndecodableBytesDefect"]),
  ("poplib",
    ["error_proto"]),
  ("xml.sax",
    ["SAXException SAXNotRecognizedException SAXNotSupportedException SAXParseException",
     "SAXReaderNotAvailable"]),
  ("xml.parsers.expat",
    ["ExpatError"]),
  ("getopt",
    ["GetoptError"]),
  ("argparse",
    ["ArgumentError ArgumentTypeError"]),
  ("optparse",
    ["AmbiguousOptionError BadOptionError OptParseError OptionConflictError OptionError",
     "OptionValueError"]),
  ("locale",
    ["Error"]),
  ("ipaddress",
    ["AddressValueError NetmaskValueError"]),
  ("lzma",
    ["LZMAError"]),
  ("calendar",
    ["IllegalMonthError IllegalWeekdayError"]),
  ("netrc",
    ["NetrcParseError"]),
  ("inspect",
    ["ClassFoundException EndOfBlock"]),
  ("asyncio.queues",
    ["QueueEmpty QueueFull"]),
  ("bdb",
    ["BdbQuit"]),
  ("concurrent.futures.process",
    ["BrokenProcessPool"]),
  ("concurrent.futures.thread",
    ["BrokenThreadPool"]),
  ("ctypes",
    ["ArgumentError"]),
  ("email.generator",
    ["HeaderWriteError"]),
  ("email.header",
    ["HeaderParseError"]),
  ("getpass",
    ["GetPassWarning"]),
  ("graphlib",
    ["CycleError"]),
  ("gzip",
    ["BadGzipFile"]),
  ("http.cookiejar",
    ["LoadError"]),
  ("http.cookies",
    ["CookieError"]),
  ("importlib.metadata",
    ["PackageNotFoundError"]),
  ("mailbox",
    ["Error ExternalClashError FormatError NoSuchMailboxError NotEmptyError"]),
  ("mmap",
    []),
  ("multiprocessing.connection",
    ["AuthenticationError BufferTooShort"]),
  ("multiprocessing.context",
    ["AuthenticationError BufferTooShort ProcessError TimeoutError"]),
  ("multiprocessing.managers",
    ["ProcessError RemoteError"]),
  ("multiprocessing.pool",
    ["MaybeEncodingError RemoteTraceback TimeoutError"]),
  ("multiprocessing.queues",
    ["Empty Full"]),
  ("multiprocessing.resource_tracker",
    ["ReentrantCallError"]),
  ("plistlib",
    ["InvalidFileException"]),
  ("py_compile",
    ["PyCompileError"]),
  ("resource",
    []),
  ("select",
    []),
  ("signal",
    []),
  ("sqlite3.dbapi2",
    ["DataError DatabaseError Error IntegrityError InterfaceError InternalError",
     "NotSupportedError OperationalError ProgrammingError Warning"]),
  ("sre_constants",
    ["error"]),
  ("termios",
    ["error"]),
  ("tokenize",
    ["StopTokenizing TokenError"]),
  ("tomllib",
    ["TOMLDecodeError"]),
  ("unittest",
    ["SkipTest"]),
  ("unittest.case",
    ["SkipTest"]),
  ("unittest.mock",
    ["InvalidSpecError"]),
  ("wave",
    ["Error"]),
  ("xml.dom",
    ["DOMException DomstringSizeErr HierarchyRequestErr IndexSizeErr InuseAttributeErr",
     "InvalidAccessErr InvalidCharacterErr InvalidModificationErr InvalidStateErr NamespaceErr",
     "NoDataAllowedErr NoModificationAllowedErr NotFoundErr NotSupportedErr SyntaxErr",
     "ValidationErr WrongDocumentErr"]),
  ("xml.dom.expatbuilder",
    ["ParseEscape"]),
  ("xml.etree.ElementInclude",
    ["FatalIncludeError LimitedRecursiveIncludeError"]),
  ("xml.etree.cElementTree",
    ["ParseError"]),
  ("xml.sax.expatreader",
    ["SAXException SAXNotRecognizedException SAXNotSupportedException SAXParseException",
     "SAXReaderNotAvailable"]),
  ("xml.sax.xmlreader",
    ["SAXNotRecognizedException SAXNotSupportedException"]),
  ("xmlrpc.client",
    ["Error Fault ProtocolError ResponseError"]),
  ("xmlrpc.server",
    ["Fault"]),
  ("zipimport",
    ["ZipImportError"]),
  ("zoneinfo",
    ["InvalidTZPathWarning ZoneInfoNotFoundError"]),
  ("yaml",
    ["MarkedYAMLError YAMLError"]),
  ("yaml.error",
    ["MarkedYAMLError YAMLError"]),
  ("yaml.reader",
    ["ReaderError"]),
  ("yaml.scanner",
    ["ScannerError"]),
  ("yaml.parser",
    ["ParserError"]),
  ("yaml.composer",
    ["ComposerError"]),
  ("yaml.constructor",
    ["ConstructorError"]),
  ("click",
    ["Abort BadArgumentUsage BadOptionUsage BadParameter ClickException FileError",
     "MissingParameter NoSuchOption UsageError"]),
  ("click.exceptions",
    ["Abort BadArgumentUsage BadOptionUsage BadParameter ClickException Exit FileError",
     "MissingParameter NoSuchOption UsageError"]),
  ("pydantic",
    ["PydanticImportError PydanticSchemaGenerationError PydanticUndefinedAnnotation",
     "PydanticUserError ValidationError"]),
  ("pydantic_core",
    ["PydanticCustomError PydanticKnownError PydanticOmit PydanticSerializationError",
     "PydanticUseDefault SchemaError ValidationError"]),
  ("tenacity",
    ["RetryError TryAgain"])]

/-- Second names of error classes in further modules, each with the path of its class. -/
def furtherAliases : List (String × List String) := [
  ("calendar",
    ["error ValueError"]),
  ("copy",
    ["error copy.Error"]),
  ("email.errors",
    ["MalformedHeaderDefect email.errors.MissingHeaderBodySeparatorDefect"]),
  ("getopt",
    ["error getopt.GetoptError"]),
  ("http.client",
    ["error http.client.HTTPException"]),
  ("io",
    ["BlockingIOError BlockingIOError"]),
  ("mmap",
    ["error OSError"]),
  ("resource",
    ["error OSError"]),
  ("select",
    ["error OSError"]),
  ("signal",
    ["ItimerError signal.itimer_error"]),
  ("ssl",
    ["CertificateError ssl.SSLCertVerificationError",
     "socket_error OSError"]),
  ("threading",
    ["ThreadError RuntimeError"]),
  ("xml.parsers.expat",
    ["error xml.parsers.expat.ExpatError"])]

end Reattempt.ErrorName
