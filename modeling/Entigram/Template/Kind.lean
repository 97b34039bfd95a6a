/-!
# Kinds of values

Every value that a template can mention is of a kind.  A kind has a name, belongs to a group, and
may be a special case of other kinds (`Kind.above`).  It says what can be done with its values
(`Kind.actions`): a template can mention that too, though nothing is done then.
-/

set_option autoImplicit false

namespace Entigram
namespace Template

/-- A kind of values: its name, and the group that it belongs to. -/
structure Kind where
  name : String
  group : String
deriving Repr, DecidableEq

namespace Kind

/-- The group of kinds that need no group to be named. -/
def basicGroup : String := "builtins"

/-- A kind that needs no group to be named. -/
def basic (name : String) : Kind := { name, group := basicGroup }

/-- The kind of everything. -/
def anything : Kind := basic "object"

/-- The kind of texts. -/
def text : Kind := basic "str"

/-- The kind of integers. -/
def integer : Kind := basic "int"

/-- The kind of records. -/
def record : Kind := basic "dict"

/-- The kind of lists of kinds. -/
def kinds : Kind := basic "tuple"

/-- The kind of kinds. -/
def kind : Kind := basic "type"

/-- The kind of the absence of a value. -/
def nothing : Kind := basic "NoneType"

/-- The kind of what can be done. -/
def action : Kind := basic "builtin_function_or_method"

/-- The kind of what is usually done without its name being mentioned. -/
def hiddenAction : Kind := basic "method-wrapper"

/-- The kind of the members of a kind. -/
def member : Kind := basic "method_descriptor"

/-- The kind of the clock that completes the names of files. -/
def clock : Kind := { name := "FileDateFormatter", group := "loguru._file_sink" }

/-- The kind of what a clock shows. -/
def shown : Kind := { name := "datetime", group := "loguru._datetime" }

/-- The kind of the first and the last moment. -/
def bound : Kind := { name := "datetime", group := "datetime" }

/-- The kind of days. -/
def date : Kind := { name := "date", group := "datetime" }

/-- The kind of lengths of time. -/
def span : Kind := { name := "timedelta", group := "datetime" }

/-- The kind of time zones. -/
def zone : Kind := { name := "timezone", group := "datetime" }

/-- The kind of everything that can be the zone of a moment. -/
def anyZone : Kind := { name := "tzinfo", group := "datetime" }

/-- The name together with the group. -/
def fullName (k : Kind) : String := if k.group = basicGroup then k.name else s!"{k.group}.{k.name}"

/-- The text of a kind. -/
def inWords (k : Kind) : String := s!"<class '{k.fullName}'>"

/-- The kinds that a kind is a special case of, the nearest first. -/
def above (k : Kind) : List Kind :=
  if k = anything then []
  else if k = shown then [bound, date, anything]
  else if k = bound then [date, anything]
  else if k = zone then [anyZone, anything]
  else [anything]

/-! ## Actions -/

/-- What can be done with every value. -/
def commonActions : List String :=
  ["__delattr__", "__dir__", "__eq__", "__format__", "__ge__", "__getattribute__", "__getstate__",
    "__gt__", "__hash__", "__init__", "__init_subclass__", "__le__", "__lt__", "__ne__", "__new__",
    "__reduce__", "__reduce_ex__", "__repr__", "__setattr__", "__sizeof__", "__str__",
    "__subclasshook__"]

/-- What has low lines around its name and is no hidden action for that. -/
def openActions : List String :=
  ["__ceil__", "__class_getitem__", "__dir__", "__floor__", "__format__", "__getinitargs__",
    "__getnewargs__", "__getstate__", "__init_subclass__", "__instancecheck__", "__new__",
    "__prepare__", "__reduce__", "__reduce_ex__", "__reversed__", "__round__", "__sizeof__",
    "__subclasscheck__", "__subclasses__", "__subclasshook__", "__trunc__"]

/-- The kind of the action of a name. -/
def ofAction (name : String) : Kind :=
  if ['_', '_'].isPrefixOf name.toList && !openActions.contains name then hiddenAction else action

/-- What can be done with texts. -/
def textActions : List String :=
  ["__add__", "__contains__", "__getitem__", "__getnewargs__", "__iter__", "__len__", "__mod__",
    "__mul__", "__rmod__", "__rmul__", "capitalize", "casefold", "center", "count", "encode",
    "endswith", "expandtabs", "find", "format", "format_map", "index", "isalnum", "isalpha",
    "isascii", "isdecimal", "isdigit", "isidentifier", "islower", "isnumeric", "isprintable",
    "isspace", "istitle", "isupper", "join", "ljust", "lower", "lstrip", "maketrans", "partition",
    "removeprefix", "removesuffix", "replace", "rfind", "rindex", "rjust", "rpartition", "rsplit",
    "rstrip", "split", "splitlines", "startswith", "strip", "swapcase", "title", "translate",
    "upper", "zfill"]

/-- What can be done with integers. -/
def integerActions : List String :=
  ["__abs__", "__add__", "__and__", "__bool__", "__ceil__", "__divmod__", "__float__", "__floor__",
    "__floordiv__", "__getnewargs__", "__index__", "__int__", "__invert__", "__lshift__", "__mod__",
    "__mul__", "__neg__", "__or__", "__pos__", "__pow__", "__radd__", "__rand__", "__rdivmod__",
    "__rfloordiv__", "__rlshift__", "__rmod__", "__rmul__", "__ror__", "__round__", "__rpow__",
    "__rrshift__", "__rshift__", "__rsub__", "__rtruediv__", "__rxor__", "__sub__", "__truediv__",
    "__trunc__", "__xor__", "as_integer_ratio", "bit_count", "bit_length", "conjugate",
    "from_bytes", "to_bytes"]

/-- What can be done with records. -/
def recordActions : List String :=
  ["__class_getitem__", "__contains__", "__delitem__", "__getitem__", "__ior__", "__iter__",
    "__len__", "__or__", "__reversed__", "__ror__", "__setitem__", "clear", "copy", "fromkeys",
    "get", "items", "keys", "pop", "popitem", "setdefault", "update", "values"]

/-- What can be done with lists of kinds. -/
def kindsActions : List String :=
  ["__add__", "__class_getitem__", "__contains__", "__getitem__", "__getnewargs__", "__iter__",
    "__len__", "__mul__", "__rmul__", "count", "index"]

/-- What can be done with kinds. -/
def kindActions : List String :=
  ["__call__", "__instancecheck__", "__or__", "__prepare__", "__ror__", "__subclasscheck__",
    "__subclasses__", "mro"]

/-- What can be done with moments. -/
def momentActions : List String :=
  ["__add__", "__radd__", "__rsub__", "__sub__", "astimezone", "combine", "ctime", "date", "dst",
    "fromisocalendar", "fromisoformat", "fromordinal", "fromtimestamp", "isocalendar", "isoformat",
    "isoweekday", "now", "replace", "strftime", "strptime", "time", "timestamp", "timetuple",
    "timetz", "today", "toordinal", "tzname", "utcfromtimestamp", "utcnow", "utcoffset",
    "utctimetuple", "weekday"]

/-- What can be done with days. -/
def dateActions : List String :=
  ["__add__", "__radd__", "__rsub__", "__sub__", "ctime", "fromisocalendar", "fromisoformat",
    "fromordinal", "fromtimestamp", "isocalendar", "isoformat", "isoweekday", "replace",
    "strftime", "timetuple", "today", "toordinal", "weekday"]

/-- What can be done with lengths of time. -/
def spanActions : List String :=
  ["__abs__", "__add__", "__bool__", "__divmod__", "__floordiv__", "__mod__", "__mul__", "__neg__",
    "__pos__", "__radd__", "__rdivmod__", "__rfloordiv__", "__rmod__", "__rmul__", "__rsub__",
    "__rtruediv__", "__sub__", "__truediv__", "total_seconds"]

/-- What can be done with zones of every kind. -/
def zoneActions : List String := ["dst", "fromutc", "tzname", "utcoffset"]

/-- What can be done with values of a kind and not with all values. -/
def ownActions : List (Kind × List String) :=
  [(text, textActions), (integer, integerActions), (record, recordActions), (kinds, kindsActions),
    (kind, kindActions), (shown, momentActions), (bound, momentActions), (date, dateActions),
    (span, spanActions), (zone, "__getinitargs__" :: zoneActions), (anyZone, zoneActions),
    (nothing, ["__bool__"]), (action, ["__call__"]), (hiddenAction, ["__call__"])]

/-- What can be done with the values of a kind. -/
def actions (k : Kind) : List String := (ownActions.lookup k).getD [] ++ commonActions

/-! ## Parts -/

/-- The parts that are different from value to value. -/
def ownParts : List (Kind × List String) :=
  let day := ["day", "month", "year"]
  let moment := day ++ ["fold", "hour", "microsecond", "minute", "second", "tzinfo"]
  [(integer, ["denominator", "imag", "numerator", "real"]), (shown, moment), (bound, moment),
    (date, day), (span, ["days", "microseconds", "seconds"])]

/-- The parts of a kind's values that are different from value to value. -/
def parts (k : Kind) : List String := (ownParts.lookup k).getD []

/-- A text that is longer than the name of any file. -/
def longText : String := String.ofList (List.replicate 300 '.')

/-- What a kind says about itself.  What the kinds of texts, integers and records say has more
characters than a file's name can have, and only this counts. -/
def explanation? (k : Kind) : Option String :=
  if k = bound then
    some ("datetime(year, month, day[, hour[, minute[, second[, microsecond[,tzinfo]]]]])\n\n"
      ++ "The year, month and day arguments are required. tzinfo may be None, or an\n"
      ++ "instance of a tzinfo subclass. The remaining arguments may be ints.\n")
  else if k = span then
    some ("Difference between two datetime values.\n\ntimedelta(days=0, seconds=0, "
      ++ "microseconds=0, milliseconds=0, minutes=0, hours=0, weeks=0)\n\nAll arguments are "
      ++ "optional and default to 0.\nArguments may be integers or floats, and may be positive or "
      ++ "negative.")
  else if k = zone then some "Fixed offset from UTC implementation of tzinfo."
  else if k = anyZone then some "Abstract base class for time zone info objects."
  else if k = date then some "date(year, month, day) --> date object"
  else if k = kind then
    some ("type(object) -> the object's type\n"
      ++ "type(name, bases, dict, **kwds) -> a new type")
  else if k = anything then
    some ("The base class of the class hierarchy.\n\nWhen called, it accepts no arguments and "
      ++ "returns a new featureless\ninstance that has no instance attributes and cannot be given "
      ++ "any.\n")
  else if [text, integer, record].contains k then some longText
  else none

end Kind

end Template
end Entigram
