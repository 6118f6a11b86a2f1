/-!
# Words with a fixed meaning in Python

The emitted client is Python 3.11 over pydantic models.  A name that the generator derives has
to keep clear of the words listed here.
-/

namespace Bindery.Code

/-- Words that can never be a name. -/
def keywords : List String := [
  "False", "None", "True", "and", "as", "assert", "async", "await", "break", "class",
  "continue", "def", "del", "elif", "else", "except", "finally", "for", "from", "global", "if",
  "import", "in", "is", "lambda", "nonlocal", "not", "or", "pass", "raise", "return", "try",
  "while", "with", "yield"]

/-- The language features that a module can ask for. -/
def features : List String := [
  "nested_scopes", "generators", "division", "absolute_import", "with_statement", "print_function",
  "unicode_literals", "barry_as_FLUFL", "generator_stop", "annotations"]

/-- Names that are bound in every module before its first line. -/
def builtins : List String := [
  "ArithmeticError", "AssertionError", "AttributeError", "BaseException", "BaseExceptionGroup",
  "BlockingIOError", "BrokenPipeError", "BufferError", "BytesWarning", "ChildProcessError",
  "ConnectionAbortedError", "ConnectionError", "ConnectionRefusedError",
  "ConnectionResetError", "DeprecationWarning", "EOFError", "Ellipsis", "EncodingWarning",
  "EnvironmentError", "Exception", "ExceptionGroup", "False", "FileExistsError",
  "FileNotFoundError", "FloatingPointError", "FutureWarning", "GeneratorExit", "IOError",
  "ImportError", "ImportWarning", "IndentationError", "IndexError", "InterruptedError",
  "IsADirectoryError", "KeyError", "KeyboardInterrupt", "LookupError", "MemoryError",
  "ModuleNotFoundError", "NameError", "None", "NotADirectoryError", "NotImplemented",
  "NotImplementedError", "OSError", "OverflowError", "PendingDeprecationWarning",
  "PermissionError", "ProcessLookupError", "RecursionError", "ReferenceError",
  "ResourceWarning", "RuntimeError", "RuntimeWarning", "StopAsyncIteration", "StopIteration",
  "SyntaxError", "SyntaxWarning", "SystemError", "SystemExit", "TabError", "TimeoutError",
  "True", "TypeError", "UnboundLocalError", "UnicodeDecodeError", "UnicodeEncodeError",
  "UnicodeError", "UnicodeTranslateError", "UnicodeWarning", "UserWarning", "ValueError",
  "Warning", "ZeroDivisionError", "__build_class__", "__debug__", "__doc__", "__import__",
  "__loader__", "__name__", "__package__", "__spec__", "abs", "aiter", "all", "anext", "any",
  "ascii", "bin", "bool", "breakpoint", "bytearray", "bytes", "callable", "chr", "classmethod",
  "compile", "complex", "copyright", "credits", "delattr", "dict", "dir", "divmod",
  "enumerate", "eval", "exec", "exit", "filter", "float", "format", "frozenset", "getattr",
  "globals", "hasattr", "hash", "help", "hex", "id", "input", "int", "isinstance",
  "issubclass", "iter", "len", "license", "list", "locals", "map", "max", "memoryview", "min",
  "next", "object", "oct", "open", "ord", "pow", "print", "property", "quit", "range", "repr",
  "reversed", "round", "set", "setattr", "slice", "sorted", "staticmethod", "str", "sum",
  "super", "tuple", "type", "vars", "zip"]

/-- Public attributes of pydantic's base class of models; a field of one of these names would
hide the attribute. -/
def modelAttributes : List String := [
  "construct", "copy", "dict", "from_orm", "json", "model_computed_fields", "model_config",
  "model_construct", "model_copy", "model_dump", "model_dump_json", "model_extra",
  "model_fields", "model_fields_set", "model_json_schema", "model_parametrized_name",
  "model_post_init", "model_rebuild", "model_validate", "model_validate_json",
  "model_validate_strings", "parse_file", "parse_obj", "parse_raw", "schema", "schema_json",
  "update_forward_refs", "validate"]

/-- Top-level modules of the standard library. -/
def standardModules : List String := [
  "__future__", "_abc", "_aix_support", "_ast", "_asyncio", "_bisect", "_blake2",
  "_bootsubprocess", "_bz2", "_codecs", "_codecs_cn", "_codecs_hk", "_codecs_iso2022",
  "_codecs_jp", "_codecs_kr", "_codecs_tw", "_collections", "_collections_abc",
  "_compat_pickle", "_compression", "_contextvars", "_crypt", "_csv", "_ctypes", "_curses",
  "_curses_panel", "_datetime", "_dbm", "_decimal", "_elementtree", "_frozen_importlib",
  "_frozen_importlib_external", "_functools", "_gdbm", "_hashlib", "_heapq", "_imp", "_io",
  "_json", "_locale", "_lsprof", "_lzma", "_markupbase", "_md5", "_msi", "_multibytecodec",
  "_multiprocessing", "_opcode", "_operator", "_osx_support", "_overlapped", "_pickle",
  "_posixshmem", "_posixsubprocess", "_py_abc", "_pydecimal", "_pyio", "_queue", "_random",
  "_scproxy", "_sha1", "_sha256", "_sha3", "_sha512", "_signal", "_sitebuiltins", "_socket",
  "_sqlite3", "_sre", "_ssl", "_stat", "_statistics", "_string", "_strptime", "_struct",
  "_symtable", "_thread", "_threading_local", "_tkinter", "_tokenize", "_tracemalloc",
  "_typing", "_uuid", "_warnings", "_weakref", "_weakrefset", "_winapi", "_zoneinfo", "abc",
  "aifc", "antigravity", "argparse", "array", "ast", "asynchat", "asyncio", "asyncore",
  "atexit", "audioop", "base64", "bdb", "binascii", "bisect", "builtins", "bz2", "cProfile",
  "calendar", "cgi", "cgitb", "chunk", "cmath", "cmd", "code", "codecs", "codeop",
  "collections", "colorsys", "compileall", "concurrent", "configparser", "contextlib",
  "contextvars", "copy", "copyreg", "crypt", "csv", "ctypes", "curses", "dataclasses",
  "datetime", "dbm", "decimal", "difflib", "dis", "distutils", "doctest", "email", "encodings",
  "ensurepip", "enum", "errno", "faulthandler", "fcntl", "filecmp", "fileinput", "fnmatch",
  "fractions", "ftplib", "functools", "gc", "genericpath", "getopt", "getpass", "gettext",
  "glob", "graphlib", "grp", "gzip", "hashlib", "heapq", "hmac", "html", "http", "idlelib",
  "imaplib", "imghdr", "imp", "importlib", "inspect", "io", "ipaddress", "itertools", "json",
  "keyword", "lib2to3", "linecache", "locale", "logging", "lzma", "mailbox", "mailcap",
  "marshal", "math", "mimetypes", "mmap", "modulefinder", "msilib", "msvcrt",
  "multiprocessing", "netrc", "nis", "nntplib", "nt", "ntpath", "nturl2path", "numbers",
  "opcode", "operator", "optparse", "os", "ossaudiodev", "pathlib", "pdb", "pickle",
  "pickletools", "pipes", "pkgutil", "platform", "plistlib", "poplib", "posix", "posixpath",
  "pprint", "profile", "pstats", "pty", "pwd", "py_compile", "pyclbr", "pydoc", "pydoc_data",
  "pyexpat", "queue", "quopri", "random", "re", "readline", "reprlib", "resource",
  "rlcompleter", "runpy", "sched", "secrets", "select", "selectors", "shelve", "shlex",
  "shutil", "signal", "site", "smtpd", "smtplib", "sndhdr", "socket", "socketserver", "spwd",
  "sqlite3", "sre_compile", "sre_constants", "sre_parse", "ssl", "stat", "statistics",
  "string", "stringprep", "struct", "subprocess", "sunau", "symtable", "sys", "sysconfig",
  "syslog", "tabnanny", "tarfile", "telnetlib", "tempfile", "termios", "textwrap", "this",
  "threading", "time", "timeit", "tkinter", "token", "tokenize", "tomllib", "trace",
  "traceback", "tracemalloc", "tty", "turtle", "turtledemo", "types", "typing", "unicodedata",
  "unittest", "urllib", "uu", "uuid", "venv", "warnings", "wave", "weakref", "webbrowser",
  "winreg", "winsound", "wsgiref", "xdrlib", "xml", "xmlrpc", "zipapp", "zipfile", "zipimport",
  "zlib", "zoneinfo"]

end Bindery.Code
