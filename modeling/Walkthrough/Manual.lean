import Walkthrough.Member

/-!
# The manual

What is said about the kinds of values and about their members, and how their arguments are written.

## Main definitions

* `ManualEntry` — what is said about one of them
* `Kind.manual?` — the entry of a kind
* `Kind.memberManual?` — the entry of a member that a kind declares
-/

namespace Walkthrough

/-- What the manual says about a kind, or about a member that a kind declares. -/
structure ManualEntry where
  kind : Kind
  /-- The name of the member, which is empty for the kind itself. -/
  member : String
  /-- How the arguments are written, if it is told. -/
  signature : Option String
  lines : List String

/-- What an entry says, if it says anything. -/
def ManualEntry.text? (e : ManualEntry) : Option String :=
  if e.lines.isEmpty then none else some ("\n".intercalate e.lines)

/-- The entries of kinds. -/
def kindEntries : List ManualEntry :=
  [⟨.object, "", some "()",
    ["The base class of the class hierarchy.", "",
     "When called, it accepts no arguments and returns a new featureless",
     "instance that has no instance attributes and cannot be given any.", ""]⟩,
   ⟨.bool, "", none,
    ["bool(x) -> bool", "", "Returns True when the argument x is true, False otherwise.",
     "The builtins True and False are the only two instances of the class bool.",
     "The class bool is a subclass of the class int, and cannot be subclassed."]⟩,
   ⟨.int, "", none,
    ["int([x]) -> integer", "int(x, base=10) -> integer", "",
     "Convert a number or string to an integer, or return 0 if no arguments",
     "are given.  If x is a number, return x.__int__().  For floating point",
     "numbers, this truncates towards zero.", "",
     "If x is not a number or if base is given, then x must be a string,",
     "bytes, or bytearray instance representing an integer literal in the",
     "given base.  The literal can be preceded by '+' or '-' and be surrounded",
     "by whitespace.  The base defaults to 10.  Valid bases are 0 and 2-36.",
     "Base 0 means to interpret the base from the string as an integer literal.",
     ">>> int('0b100', base=0)", "4"]⟩,
   ⟨.real, "", some "(x=0, /)",
    ["Convert a string or number to a floating point number, if possible."]⟩,
   ⟨.text, "", none,
    ["str(object='') -> str", "str(bytes_or_buffer[, encoding[, errors]]) -> str", "",
     "Create a new string object from the given object. If encoding or",
     "errors is specified, then the object must expose a data buffer",
     "that will be decoded using the given encoding and error handler.",
     "Otherwise, returns the result of object.__str__() (if defined)", "or repr(object).",
     "encoding defaults to sys.getdefaultencoding().", "errors defaults to 'strict'."]⟩,
   ⟨.list, "", some "(iterable=(), /)",
    ["Built-in mutable sequence.", "",
     "If no argument is given, the constructor creates a new empty list.",
     "The argument must be an iterable if specified."]⟩,
   ⟨.tuple, "", some "(iterable=(), /)",
    ["Built-in immutable sequence.", "",
     "If no argument is given, the constructor returns an empty tuple.",
     "If iterable is specified the tuple is initialized from iterable's items.", "",
     "If the argument is a tuple, the return value is the same object."]⟩,
   ⟨.dict, "", none,
    ["dict() -> new empty dictionary",
     "dict(mapping) -> new dictionary initialized from a mapping object's",
     "    (key, value) pairs", "dict(iterable) -> new dictionary initialized as if via:",
     "    d = \x7b\x7d", "    for k, v in iterable:", "        d[k] = v",
     "dict(**kwargs) -> new dictionary initialized with the name=value pairs",
     "    in the keyword argument list.  For example:  dict(one=1, two=2)"]⟩,
   ⟨.range, "", none,
    ["range(stop) -> range object", "range(start, stop[, step]) -> range object", "",
     "Return an object that produces a sequence of integers from start (inclusive)",
     "to stop (exclusive) by step.  range(i, j) produces i, i+1, i+2, ..., j-1.",
     "start defaults to 0, and stop is omitted!  range(4) produces 0, 1, 2, 3.",
     "These are exactly the valid indices for a list of 4 elements.",
     "When step is given, it specifies the increment (or decrement)."]⟩,
   ⟨.method, "", some "(function, instance, /)", ["Create a bound instance method object."]⟩,
   ⟨.function, "", some "(code, globals, name=None, argdefs=None, closure=None)",
    ["Create a function object.", "", "  code", "    a code object", "  globals",
     "    the globals dictionary", "  name",
     "    a string that overrides the name from the code object", "  argdefs",
     "    a tuple that specifies the default argument values", "  closure",
     "    a tuple that supplies the bindings for free variables"]⟩,
   ⟨.type, "", none,
    ["type(object) -> the object's type", "type(name, bases, dict, **kwds) -> a new type"]⟩]

/-- The entries of the operations that stand for a sign or a notion, whatever kind declares them. -/
def specialEntries : List ManualEntry :=
  [⟨.object, "__repr__", some "($self, /)", ["Return repr(self)."]⟩,
   ⟨.object, "__hash__", some "($self, /)", ["Return hash(self)."]⟩,
   ⟨.object, "__str__", some "($self, /)", ["Return str(self)."]⟩,
   ⟨.object, "__getattribute__", some "($self, name, /)", ["Return getattr(self, name)."]⟩,
   ⟨.object, "__setattr__", some "($self, name, value, /)",
    ["Implement setattr(self, name, value)."]⟩,
   ⟨.object, "__delattr__", some "($self, name, /)", ["Implement delattr(self, name)."]⟩,
   ⟨.object, "__lt__", some "($self, value, /)", ["Return self<value."]⟩,
   ⟨.object, "__le__", some "($self, value, /)", ["Return self<=value."]⟩,
   ⟨.object, "__eq__", some "($self, value, /)", ["Return self==value."]⟩,
   ⟨.object, "__ne__", some "($self, value, /)", ["Return self!=value."]⟩,
   ⟨.object, "__gt__", some "($self, value, /)", ["Return self>value."]⟩,
   ⟨.object, "__ge__", some "($self, value, /)", ["Return self>=value."]⟩,
   ⟨.object, "__init__", some "($self, /, *args, **kwargs)",
    ["Initialize self.  See help(type(self)) for accurate signature."]⟩,
   ⟨.object, "__bool__", some "($self, /)", ["True if self else False"]⟩,
   ⟨.object, "__and__", some "($self, value, /)", ["Return self&value."]⟩,
   ⟨.object, "__rand__", some "($self, value, /)", ["Return value&self."]⟩,
   ⟨.object, "__xor__", some "($self, value, /)", ["Return self^value."]⟩,
   ⟨.object, "__rxor__", some "($self, value, /)", ["Return value^self."]⟩,
   ⟨.object, "__or__", some "($self, value, /)", ["Return self|value."]⟩,
   ⟨.object, "__ror__", some "($self, value, /)", ["Return value|self."]⟩,
   ⟨.object, "__add__", some "($self, value, /)", ["Return self+value."]⟩,
   ⟨.object, "__radd__", some "($self, value, /)", ["Return value+self."]⟩,
   ⟨.object, "__sub__", some "($self, value, /)", ["Return self-value."]⟩,
   ⟨.object, "__rsub__", some "($self, value, /)", ["Return value-self."]⟩,
   ⟨.object, "__mul__", some "($self, value, /)", ["Return self*value."]⟩,
   ⟨.object, "__rmul__", some "($self, value, /)", ["Return value*self."]⟩,
   ⟨.object, "__mod__", some "($self, value, /)", ["Return self%value."]⟩,
   ⟨.object, "__rmod__", some "($self, value, /)", ["Return value%self."]⟩,
   ⟨.object, "__divmod__", some "($self, value, /)", ["Return divmod(self, value)."]⟩,
   ⟨.object, "__rdivmod__", some "($self, value, /)", ["Return divmod(value, self)."]⟩,
   ⟨.object, "__pow__", some "($self, value, mod=None, /)", ["Return pow(self, value, mod)."]⟩,
   ⟨.object, "__rpow__", some "($self, value, mod=None, /)", ["Return pow(value, self, mod)."]⟩,
   ⟨.object, "__neg__", some "($self, /)", ["-self"]⟩,
   ⟨.object, "__pos__", some "($self, /)", ["+self"]⟩,
   ⟨.object, "__abs__", some "($self, /)", ["abs(self)"]⟩,
   ⟨.object, "__invert__", some "($self, /)", ["~self"]⟩,
   ⟨.object, "__lshift__", some "($self, value, /)", ["Return self<<value."]⟩,
   ⟨.object, "__rlshift__", some "($self, value, /)", ["Return value<<self."]⟩,
   ⟨.object, "__rshift__", some "($self, value, /)", ["Return self>>value."]⟩,
   ⟨.object, "__rrshift__", some "($self, value, /)", ["Return value>>self."]⟩,
   ⟨.object, "__int__", some "($self, /)", ["int(self)"]⟩,
   ⟨.object, "__float__", some "($self, /)", ["float(self)"]⟩,
   ⟨.object, "__floordiv__", some "($self, value, /)", ["Return self//value."]⟩,
   ⟨.object, "__rfloordiv__", some "($self, value, /)", ["Return value//self."]⟩,
   ⟨.object, "__truediv__", some "($self, value, /)", ["Return self/value."]⟩,
   ⟨.object, "__rtruediv__", some "($self, value, /)", ["Return value/self."]⟩,
   ⟨.object, "__index__", some "($self, /)",
    ["Return self converted to an integer, if self is suitable for use as an index into a list."]⟩,
   ⟨.object, "__iter__", some "($self, /)", ["Implement iter(self)."]⟩,
   ⟨.object, "__len__", some "($self, /)", ["Return len(self)."]⟩,
   ⟨.object, "__getitem__", some "($self, key, /)", ["Return self[key]."]⟩,
   ⟨.object, "__contains__", some "($self, key, /)", ["Return key in self."]⟩,
   ⟨.object, "__setitem__", some "($self, key, value, /)", ["Set self[key] to value."]⟩,
   ⟨.object, "__delitem__", some "($self, key, /)", ["Delete self[key]."]⟩,
   ⟨.object, "__iadd__", some "($self, value, /)", ["Implement self+=value."]⟩,
   ⟨.object, "__imul__", some "($self, value, /)", ["Implement self*=value."]⟩,
   ⟨.object, "__ior__", some "($self, value, /)", ["Return self|=value."]⟩,
   ⟨.object, "__next__", some "($self, /)", ["Implement next(self)."]⟩,
   ⟨.object, "__call__", some "($self, /, *args, **kwargs)", ["Call self as a function."]⟩,
   ⟨.object, "__get__", some "($self, instance, owner=None, /)",
    ["Return an attribute of instance, which is of type owner."]⟩,
   ⟨.object, "__set__", some "($self, instance, value, /)",
    ["Set an attribute of instance to value."]⟩,
   ⟨.object, "__delete__", some "($self, instance, /)", ["Delete an attribute of instance."]⟩]

/-- The entries of other members. -/
def memberEntries : List ManualEntry :=
  [⟨.object, "__new__", some "($type, *args, **kwargs)",
    ["Create and return a new object.  See help(type) for accurate signature."]⟩,
   ⟨.object, "__reduce_ex__", some "($self, protocol, /)", ["Helper for pickle."]⟩,
   ⟨.object, "__reduce__", some "($self, /)", ["Helper for pickle."]⟩,
   ⟨.object, "__getstate__", some "($self, /)", ["Helper for pickle."]⟩,
   ⟨.object, "__subclasshook__", none,
    ["Abstract classes can override this to customize issubclass().", "",
     "This is invoked early on by abc.ABCMeta.__subclasscheck__().",
     "It should return True, False or NotImplemented.  If it returns",
     "NotImplemented, the normal algorithm is used.  Otherwise, it",
     "overrides the normal algorithm (and the outcome is cached).", ""]⟩,
   ⟨.object, "__init_subclass__", none,
    ["This method is called when a class is subclassed.", "",
     "The default implementation does nothing. It may be", "overridden to extend subclasses.",
     ""]⟩,
   ⟨.object, "__format__", some "($self, format_spec, /)", ["Default object formatter."]⟩,
   ⟨.object, "__sizeof__", some "($self, /)", ["Size of object in memory, in bytes."]⟩,
   ⟨.object, "__dir__", some "($self, /)", ["Default dir() implementation."]⟩,
   ⟨.object, "__class__", none, ["the object's class"]⟩,
   ⟨.null, "__new__", some "($type, *args, **kwargs)",
    ["Create and return a new object.  See help(type) for accurate signature."]⟩,
   ⟨.bool, "__new__", some "($type, *args, **kwargs)",
    ["Create and return a new object.  See help(type) for accurate signature."]⟩,
   ⟨.int, "__new__", some "($type, *args, **kwargs)",
    ["Create and return a new object.  See help(type) for accurate signature."]⟩,
   ⟨.int, "conjugate", none, ["Returns self, the complex conjugate of any int."]⟩,
   ⟨.int, "bit_length", some "($self, /)",
    ["Number of bits necessary to represent self in binary.", "", ">>> bin(37)", "'0b100101'",
     ">>> (37).bit_length()", "6"]⟩,
   ⟨.int, "bit_count", some "($self, /)",
    ["Number of ones in the binary representation of the absolute value of self.", "",
     "Also known as the population count.", "", ">>> bin(13)", "'0b1101'",
     ">>> (13).bit_count()", "3"]⟩,
   ⟨.int, "to_bytes", some "($self, /, length=1, byteorder='big', *, signed=False)",
    ["Return an array of bytes representing an integer.", "", "  length",
     "    Length of bytes object to use.  An OverflowError is raised if the",
     "    integer is not representable with the given number of bytes.  Default",
     "    is length 1.", "  byteorder",
     "    The byte order used to represent the integer.  If byteorder is 'big',",
     "    the most significant byte is at the beginning of the byte array.  If",
     "    byteorder is 'little', the most significant byte is at the end of the",
     "    byte array.  To request the native byte order of the host system, use",
     "    `sys.byteorder' as the byte order value.  Default is to use 'big'.", "  signed",
     "    Determines whether two's complement is used to represent the integer.",
     "    If signed is False and a negative integer is given, an OverflowError",
     "    is raised."]⟩,
   ⟨.int, "from_bytes", some "($type, /, bytes, byteorder='big', *, signed=False)",
    ["Return the integer represented by the given array of bytes.", "", "  bytes",
     "    Holds the array of bytes to convert.  The argument must either",
     "    support the buffer protocol or be an iterable object producing bytes.",
     "    Bytes and bytearray are examples of built-in objects that support the",
     "    buffer protocol.", "  byteorder",
     "    The byte order used to represent the integer.  If byteorder is 'big',",
     "    the most significant byte is at the beginning of the byte array.  If",
     "    byteorder is 'little', the most significant byte is at the end of the",
     "    byte array.  To request the native byte order of the host system, use",
     "    `sys.byteorder' as the byte order value.  Default is to use 'big'.", "  signed",
     "    Indicates whether two's complement is used to represent the integer."]⟩,
   ⟨.int, "__trunc__", none, ["Truncating an Integral returns itself."]⟩,
   ⟨.int, "__floor__", none, ["Flooring an Integral returns itself."]⟩,
   ⟨.int, "__ceil__", none, ["Ceiling of an Integral returns itself."]⟩,
   ⟨.int, "__round__", some "($self, ndigits=<unrepresentable>, /)",
    ["Rounding an Integral returns itself.", "",
     "Rounding with an ndigits argument also returns an integer."]⟩,
   ⟨.int, "__getnewargs__", some "($self, /)", []⟩,
   ⟨.int, "__format__", some "($self, format_spec, /)", []⟩,
   ⟨.int, "__sizeof__", some "($self, /)", ["Returns size in memory, in bytes."]⟩,
   ⟨.int, "real", none, ["the real part of a complex number"]⟩,
   ⟨.int, "imag", none, ["the imaginary part of a complex number"]⟩,
   ⟨.int, "numerator", none, ["the numerator of a rational number in lowest terms"]⟩,
   ⟨.int, "as_integer_ratio", some "($self, /)",
    ["Return integer ratio.", "",
     "Return a pair of integers, whose ratio is exactly equal to the original int",
     "and with a positive denominator.", "", ">>> (10).as_integer_ratio()", "(10, 1)",
     ">>> (-10).as_integer_ratio()", "(-10, 1)", ">>> (0).as_integer_ratio()", "(0, 1)"]⟩,
   ⟨.int, "denominator", none, ["the denominator of a rational number in lowest terms"]⟩,
   ⟨.real, "__new__", some "($type, *args, **kwargs)",
    ["Create and return a new object.  See help(type) for accurate signature."]⟩,
   ⟨.real, "conjugate", some "($self, /)", ["Return self, the complex conjugate of any float."]⟩,
   ⟨.real, "__trunc__", some "($self, /)", ["Return the Integral closest to x between 0 and x."]⟩,
   ⟨.real, "__floor__", some "($self, /)", ["Return the floor as an Integral."]⟩,
   ⟨.real, "__ceil__", some "($self, /)", ["Return the ceiling as an Integral."]⟩,
   ⟨.real, "__round__", some "($self, ndigits=None, /)",
    ["Return the Integral closest to x, rounding half toward even.", "",
     "When an argument is passed, work like built-in round(x, ndigits)."]⟩,
   ⟨.real, "fromhex", some "($type, string, /)",
    ["Create a floating-point number from a hexadecimal string.", "",
     ">>> float.fromhex('0x1.ffffp10')", "2047.984375", ">>> float.fromhex('-0x1p-1074')",
     "-5e-324"]⟩,
   ⟨.real, "hex", some "($self, /)",
    ["Return a hexadecimal representation of a floating-point number.", "", ">>> (-0.1).hex()",
     "'-0x1.999999999999ap-4'", ">>> 3.14159.hex()", "'0x1.921f9f01b866ep+1'"]⟩,
   ⟨.real, "is_integer", some "($self, /)", ["Return True if the float is an integer."]⟩,
   ⟨.real, "__getnewargs__", some "($self, /)", []⟩,
   ⟨.real, "__format__", some "($self, format_spec, /)",
    ["Formats the float according to format_spec."]⟩,
   ⟨.real, "real", none, ["the real part of a complex number"]⟩,
   ⟨.real, "__getformat__", some "($type, typestr, /)",
    ["You probably don't want to use this function.", "", "  typestr",
     "    Must be 'double' or 'float'.", "", "It exists mainly to be used in Python's test suite.",
     "", "This function returns whichever of 'unknown', 'IEEE, big-endian' or 'IEEE,",
     "little-endian' best describes the format of floating point numbers used by the",
     "C type named by typestr."]⟩,
   ⟨.real, "as_integer_ratio", some "($self, /)",
    ["Return integer ratio.", "",
     "Return a pair of integers, whose ratio is exactly equal to the original float",
     "and with a positive denominator.", "",
     "Raise OverflowError on infinities and a ValueError on NaNs.", "",
     ">>> (10.0).as_integer_ratio()", "(10, 1)", ">>> (0.0).as_integer_ratio()", "(0, 1)",
     ">>> (-.25).as_integer_ratio()", "(-1, 4)"]⟩,
   ⟨.real, "imag", none, ["the imaginary part of a complex number"]⟩,
   ⟨.text, "__new__", some "($type, *args, **kwargs)",
    ["Create and return a new object.  See help(type) for accurate signature."]⟩,
   ⟨.text, "encode", some "($self, /, encoding='utf-8', errors='strict')",
    ["Encode the string using the codec registered for encoding.", "", "  encoding",
     "    The encoding in which to encode the string.", "  errors",
     "    The error handling scheme to use for encoding errors.",
     "    The default is 'strict' meaning that encoding errors raise a",
     "    UnicodeEncodeError.  Other possible values are 'ignore', 'replace' and",
     "    'xmlcharrefreplace' as well as any other name registered with",
     "    codecs.register_error that can handle UnicodeEncodeErrors."]⟩,
   ⟨.text, "replace", some "($self, old, new, count=-1, /)",
    ["Return a copy with all occurrences of substring old replaced by new.", "", "  count",
     "    Maximum number of occurrences to replace.",
     "    -1 (the default value) means replace all occurrences.", "",
     "If the optional argument count is given, only the first count occurrences are",
     "replaced."]⟩,
   ⟨.text, "split", some "($self, /, sep=None, maxsplit=-1)",
    ["Return a list of the substrings in the string, using sep as the separator string.", "",
     "  sep", "    The separator used to split the string.", "",
     "    When set to None (the default value), will split on any whitespace",
     "    character (including \\n \\r \\t \\f and spaces) and will discard",
     "    empty strings from the result.", "  maxsplit", "    Maximum number of splits.",
     "    -1 (the default value) means no limit.", "",
     "Splitting starts at the front of the string and works to the end.", "",
     "Note, str.split() is mainly useful for data that has been intentionally",
     "delimited.  With natural text that includes punctuation, consider using",
     "the regular expression module."]⟩,
   ⟨.text, "rsplit", some "($self, /, sep=None, maxsplit=-1)",
    ["Return a list of the substrings in the string, using sep as the separator string.", "",
     "  sep", "    The separator used to split the string.", "",
     "    When set to None (the default value), will split on any whitespace",
     "    character (including \\n \\r \\t \\f and spaces) and will discard",
     "    empty strings from the result.", "  maxsplit", "    Maximum number of splits.",
     "    -1 (the default value) means no limit.", "",
     "Splitting starts at the end of the string and works to the front."]⟩,
   ⟨.text, "join", some "($self, iterable, /)",
    ["Concatenate any number of strings.", "",
     "The string whose method is called is inserted in between each given string.",
     "The result is returned as a new string.", "",
     "Example: '.'.join(['ab', 'pq', 'rs']) -> 'ab.pq.rs'"]⟩,
   ⟨.text, "capitalize", some "($self, /)",
    ["Return a capitalized version of the string.", "",
     "More specifically, make the first character have upper case and the rest lower", "case."]⟩,
   ⟨.text, "casefold", some "($self, /)",
    ["Return a version of the string suitable for caseless comparisons."]⟩,
   ⟨.text, "title", some "($self, /)",
    ["Return a version of the string where each word is titlecased.", "",
     "More specifically, words start with uppercased characters and all remaining",
     "cased characters have lower case."]⟩,
   ⟨.text, "center", some "($self, width, fillchar=' ', /)",
    ["Return a centered string of length width.", "",
     "Padding is done using the specified fill character (default is a space)."]⟩,
   ⟨.text, "count", none,
    ["S.count(sub[, start[, end]]) -> int", "",
     "Return the number of non-overlapping occurrences of substring sub in",
     "string S[start:end].  Optional arguments start and end are",
     "interpreted as in slice notation."]⟩,
   ⟨.text, "expandtabs", some "($self, /, tabsize=8)",
    ["Return a copy where all tab characters are expanded using spaces.", "",
     "If tabsize is not given, a tab size of 8 characters is assumed."]⟩,
   ⟨.text, "find", none,
    ["S.find(sub[, start[, end]]) -> int", "",
     "Return the lowest index in S where substring sub is found,",
     "such that sub is contained within S[start:end].  Optional",
     "arguments start and end are interpreted as in slice notation.", "",
     "Return -1 on failure."]⟩,
   ⟨.text, "index", none,
    ["S.index(sub[, start[, end]]) -> int", "",
     "Return the lowest index in S where substring sub is found,",
     "such that sub is contained within S[start:end].  Optional",
     "arguments start and end are interpreted as in slice notation.", "",
     "Raises ValueError when the substring is not found."]⟩,
   ⟨.text, "ljust", some "($self, width, fillchar=' ', /)",
    ["Return a left-justified string of length width.", "",
     "Padding is done using the specified fill character (default is a space)."]⟩,
   ⟨.text, "lower", some "($self, /)", ["Return a copy of the string converted to lowercase."]⟩,
   ⟨.text, "lstrip", some "($self, chars=None, /)",
    ["Return a copy of the string with leading whitespace removed.", "",
     "If chars is given and not None, remove characters in chars instead."]⟩,
   ⟨.text, "rfind", none,
    ["S.rfind(sub[, start[, end]]) -> int", "",
     "Return the highest index in S where substring sub is found,",
     "such that sub is contained within S[start:end].  Optional",
     "arguments start and end are interpreted as in slice notation.", "",
     "Return -1 on failure."]⟩,
   ⟨.text, "rindex", none,
    ["S.rindex(sub[, start[, end]]) -> int", "",
     "Return the highest index in S where substring sub is found,",
     "such that sub is contained within S[start:end].  Optional",
     "arguments start and end are interpreted as in slice notation.", "",
     "Raises ValueError when the substring is not found."]⟩,
   ⟨.text, "rjust", some "($self, width, fillchar=' ', /)",
    ["Return a right-justified string of length width.", "",
     "Padding is done using the specified fill character (default is a space)."]⟩,
   ⟨.text, "rstrip", some "($self, chars=None, /)",
    ["Return a copy of the string with trailing whitespace removed.", "",
     "If chars is given and not None, remove characters in chars instead."]⟩,
   ⟨.text, "splitlines", some "($self, /, keepends=False)",
    ["Return a list of the lines in the string, breaking at line boundaries.", "",
     "Line breaks are not included in the resulting list unless keepends is given and", "true."]⟩,
   ⟨.text, "strip", some "($self, chars=None, /)",
    ["Return a copy of the string with leading and trailing whitespace removed.", "",
     "If chars is given and not None, remove characters in chars instead."]⟩,
   ⟨.text, "swapcase", some "($self, /)",
    ["Convert uppercase characters to lowercase and lowercase characters to uppercase."]⟩,
   ⟨.text, "translate", some "($self, table, /)",
    ["Replace each character in the string using the given translation table.", "", "  table",
     "    Translation table, which must be a mapping of Unicode ordinals to",
     "    Unicode ordinals, strings, or None.", "",
     "The table must implement lookup/indexing via __getitem__, for instance a",
     "dictionary or list.  If this operation raises LookupError, the character is",
     "left untouched.  Characters mapped to None are deleted."]⟩,
   ⟨.text, "upper", some "($self, /)", ["Return a copy of the string converted to uppercase."]⟩,
   ⟨.text, "startswith", none,
    ["S.startswith(prefix[, start[, end]]) -> bool", "",
     "Return True if S starts with the specified prefix, False otherwise.",
     "With optional start, test S beginning at that position.",
     "With optional end, stop comparing S at that position.",
     "prefix can also be a tuple of strings to try."]⟩,
   ⟨.text, "endswith", none,
    ["S.endswith(suffix[, start[, end]]) -> bool", "",
     "Return True if S ends with the specified suffix, False otherwise.",
     "With optional start, test S beginning at that position.",
     "With optional end, stop comparing S at that position.",
     "suffix can also be a tuple of strings to try."]⟩,
   ⟨.text, "isascii", some "($self, /)",
    ["Return True if all characters in the string are ASCII, False otherwise.", "",
     "ASCII characters have code points in the range U+0000-U+007F.",
     "Empty string is ASCII too."]⟩,
   ⟨.text, "islower", some "($self, /)",
    ["Return True if the string is a lowercase string, False otherwise.", "",
     "A string is lowercase if all cased characters in the string are lowercase and",
     "there is at least one cased character in the string."]⟩,
   ⟨.text, "isupper", some "($self, /)",
    ["Return True if the string is an uppercase string, False otherwise.", "",
     "A string is uppercase if all cased characters in the string are uppercase and",
     "there is at least one cased character in the string."]⟩,
   ⟨.text, "istitle", some "($self, /)",
    ["Return True if the string is a title-cased string, False otherwise.", "",
     "In a title-cased string, upper- and title-case characters may only",
     "follow uncased characters and lowercase characters only cased ones."]⟩,
   ⟨.text, "isspace", some "($self, /)",
    ["Return True if the string is a whitespace string, False otherwise.", "",
     "A string is whitespace if all characters in the string are whitespace and there",
     "is at least one character in the string."]⟩,
   ⟨.text, "isdecimal", some "($self, /)",
    ["Return True if the string is a decimal string, False otherwise.", "",
     "A string is a decimal string if all characters in the string are decimal and",
     "there is at least one character in the string."]⟩,
   ⟨.text, "isdigit", some "($self, /)",
    ["Return True if the string is a digit string, False otherwise.", "",
     "A string is a digit string if all characters in the string are digits and there",
     "is at least one character in the string."]⟩,
   ⟨.text, "isnumeric", some "($self, /)",
    ["Return True if the string is a numeric string, False otherwise.", "",
     "A string is numeric if all characters in the string are numeric and there is at",
     "least one character in the string."]⟩,
   ⟨.text, "isalpha", some "($self, /)",
    ["Return True if the string is an alphabetic string, False otherwise.", "",
     "A string is alphabetic if all characters in the string are alphabetic and there",
     "is at least one character in the string."]⟩,
   ⟨.text, "isalnum", some "($self, /)",
    ["Return True if the string is an alpha-numeric string, False otherwise.", "",
     "A string is alpha-numeric if all characters in the string are alpha-numeric and",
     "there is at least one character in the string."]⟩,
   ⟨.text, "isprintable", some "($self, /)",
    ["Return True if the string is printable, False otherwise.", "",
     "A string is printable if all of its characters are considered printable in",
     "repr() or if it is empty."]⟩,
   ⟨.text, "zfill", some "($self, width, /)",
    ["Pad a numeric string with zeros on the left, to fill a field of the given width.", "",
     "The string is never truncated."]⟩,
   ⟨.text, "format", none,
    ["S.format(*args, **kwargs) -> str", "",
     "Return a formatted version of S, using substitutions from args and kwargs.",
     "The substitutions are identified by braces ('\x7b' and '\x7d')."]⟩,
   ⟨.text, "format_map", none,
    ["S.format_map(mapping) -> str", "",
     "Return a formatted version of S, using substitutions from mapping.",
     "The substitutions are identified by braces ('\x7b' and '\x7d')."]⟩,
   ⟨.text, "__format__", some "($self, format_spec, /)",
    ["Return a formatted version of the string as described by format_spec."]⟩,
   ⟨.text, "maketrans", some "(x, y=<unrepresentable>, z=<unrepresentable>, /)",
    ["Return a translation table usable for str.translate().", "",
     "If there is only one argument, it must be a dictionary mapping Unicode",
     "ordinals (integers) or characters to Unicode ordinals, strings or None.",
     "Character keys will be then converted to ordinals.",
     "If there are two arguments, they must be strings of equal length, and",
     "in the resulting dictionary, each character in x will be mapped to the",
     "character at the same position in y. If there is a third argument, it",
     "must be a string, whose characters will be mapped to None in the result."]⟩,
   ⟨.text, "partition", some "($self, sep, /)",
    ["Partition the string into three parts using the given separator.", "",
     "This will search for the separator in the string.  If the separator is found,",
     "returns a 3-tuple containing the part before the separator, the separator",
     "itself, and the part after it.", "",
     "If the separator is not found, returns a 3-tuple containing the original string",
     "and two empty strings."]⟩,
   ⟨.text, "rpartition", some "($self, sep, /)",
    ["Partition the string into three parts using the given separator.", "",
     "This will search for the separator in the string, starting at the end. If",
     "the separator is found, returns a 3-tuple containing the part before the",
     "separator, the separator itself, and the part after it.", "",
     "If the separator is not found, returns a 3-tuple containing two empty strings",
     "and the original string."]⟩,
   ⟨.text, "removeprefix", some "($self, prefix, /)",
    ["Return a str with the given prefix string removed if present.", "",
     "If the string starts with the prefix string, return string[len(prefix):].",
     "Otherwise, return a copy of the original string."]⟩,
   ⟨.text, "removesuffix", some "($self, suffix, /)",
    ["Return a str with the given suffix string removed if present.", "",
     "If the string ends with the suffix string and that suffix is not empty,",
     "return string[:-len(suffix)]. Otherwise, return a copy of the original", "string."]⟩,
   ⟨.text, "isidentifier", some "($self, /)",
    ["Return True if the string is a valid Python identifier, False otherwise.", "",
     "Call keyword.iskeyword(s) to test whether string s is a reserved identifier,",
     "such as \"def\" or \"class\"."]⟩,
   ⟨.text, "__sizeof__", some "($self, /)",
    ["Return the size of the string in memory, in bytes."]⟩,
   ⟨.list, "__new__", some "($type, *args, **kwargs)",
    ["Create and return a new object.  See help(type) for accurate signature."]⟩,
   ⟨.list, "__getitem__", none, ["x.__getitem__(y) <==> x[y]"]⟩,
   ⟨.list, "__reversed__", some "($self, /)", ["Return a reverse iterator over the list."]⟩,
   ⟨.list, "__sizeof__", some "($self, /)", ["Return the size of the list in memory, in bytes."]⟩,
   ⟨.list, "clear", some "($self, /)", ["Remove all items from list."]⟩,
   ⟨.list, "copy", some "($self, /)", ["Return a shallow copy of the list."]⟩,
   ⟨.list, "append", some "($self, object, /)", ["Append object to the end of the list."]⟩,
   ⟨.list, "insert", some "($self, index, object, /)", ["Insert object before index."]⟩,
   ⟨.list, "extend", some "($self, iterable, /)",
    ["Extend list by appending elements from the iterable."]⟩,
   ⟨.list, "pop", some "($self, index=-1, /)",
    ["Remove and return item at index (default last).", "",
     "Raises IndexError if list is empty or index is out of range."]⟩,
   ⟨.list, "remove", some "($self, value, /)",
    ["Remove first occurrence of value.", "", "Raises ValueError if the value is not present."]⟩,
   ⟨.list, "index", some "($self, value, start=0, stop=sys.maxsize, /)",
    ["Return first index of value.", "", "Raises ValueError if the value is not present."]⟩,
   ⟨.list, "count", some "($self, value, /)", ["Return number of occurrences of value."]⟩,
   ⟨.list, "reverse", some "($self, /)", ["Reverse *IN PLACE*."]⟩,
   ⟨.list, "__class_getitem__", none,
    ["See PEP 585"]⟩,
   ⟨.list, "sort", some "($self, /, *, key=None, reverse=False)",
    ["Sort the list in ascending order and return None.", "",
     "The sort is in-place (i.e. the list itself is modified) and stable (i.e. the",
     "order of two equal elements is maintained).", "",
     "If a key function is given, apply it once to each list item and sort them,",
     "ascending or descending, according to their function values.", "",
     "The reverse flag can be set to sort in descending order."]⟩,
   ⟨.tuple, "__new__", some "($type, *args, **kwargs)",
    ["Create and return a new object.  See help(type) for accurate signature."]⟩,
   ⟨.tuple, "__getnewargs__", some "($self, /)", []⟩,
   ⟨.tuple, "index", some "($self, value, start=0, stop=sys.maxsize, /)",
    ["Return first index of value.", "", "Raises ValueError if the value is not present."]⟩,
   ⟨.tuple, "__class_getitem__", none,
    ["See PEP 585"]⟩,
   ⟨.tuple, "count", some "($self, value, /)", ["Return number of occurrences of value."]⟩,
   ⟨.dict, "__new__", some "($type, *args, **kwargs)",
    ["Create and return a new object.  See help(type) for accurate signature."]⟩,
   ⟨.dict, "__getitem__", none, ["x.__getitem__(y) <==> x[y]"]⟩,
   ⟨.dict, "__contains__", some "($self, key, /)",
    ["True if the dictionary has the specified key, else False."]⟩,
   ⟨.dict, "__sizeof__", none, ["D.__sizeof__() -> size of D in memory, in bytes"]⟩,
   ⟨.dict, "get", some "($self, key, default=None, /)",
    ["Return the value for key if key is in the dictionary, else default."]⟩,
   ⟨.dict, "setdefault", some "($self, key, default=None, /)",
    ["Insert key with a value of default if key is not in the dictionary.", "",
     "Return the value for key if key is in the dictionary, else default."]⟩,
   ⟨.dict, "pop", some "($self, key, default=<unrepresentable>, /)",
    ["D.pop(k[,d]) -> v, remove specified key and return the corresponding value.", "",
     "If the key is not found, return the default if given; otherwise,", "raise a KeyError."]⟩,
   ⟨.dict, "popitem", some "($self, /)",
    ["Remove and return a (key, value) pair as a 2-tuple.", "",
     "Pairs are returned in LIFO (last-in, first-out) order.",
     "Raises KeyError if the dict is empty."]⟩,
   ⟨.dict, "keys", none, ["D.keys() -> a set-like object providing a view on D's keys"]⟩,
   ⟨.dict, "items", none, ["D.items() -> a set-like object providing a view on D's items"]⟩,
   ⟨.dict, "values", none, ["D.values() -> an object providing a view on D's values"]⟩,
   ⟨.dict, "update", none,
    ["D.update([E, ]**F) -> None.  Update D from dict/iterable E and F.",
     "If E is present and has a .keys() method, then does:  for k in E: D[k] = E[k]",
     "If E is present and lacks a .keys() method, then does:  for k, v in E: D[k] = v",
     "In either case, this is followed by: for k in F:  D[k] = F[k]"]⟩,
   ⟨.dict, "fromkeys", some "($type, iterable, value=None, /)",
    ["Create a new dictionary with keys from iterable and values set to value."]⟩,
   ⟨.dict, "clear", none, ["D.clear() -> None.  Remove all items from D."]⟩,
   ⟨.dict, "copy", none, ["D.copy() -> a shallow copy of D"]⟩,
   ⟨.dict, "__class_getitem__", none,
    ["See PEP 585"]⟩,
   ⟨.dict, "__reversed__", some "($self, /)", ["Return a reverse iterator over the dict keys."]⟩,
   ⟨.range, "__new__", some "($type, *args, **kwargs)",
    ["Create and return a new object.  See help(type) for accurate signature."]⟩,
   ⟨.range, "__reversed__", none, ["Return a reverse iterator."]⟩,
   ⟨.range, "count", none,
    ["rangeobject.count(value) -> integer -- return number of occurrences of value"]⟩,
   ⟨.range, "index", none,
    ["rangeobject.index(value) -> integer -- return index of value.",
     "Raise ValueError if the value is not present."]⟩,
   ⟨.listIterator, "__length_hint__", none,
    ["Private method returning an estimate of len(list(it))."]⟩,
   ⟨.listIterator, "__reduce__", none, ["Return state information for pickling."]⟩,
   ⟨.listIterator, "__setstate__", none, ["Set state information for unpickling."]⟩,
   ⟨.rangeIterator, "__length_hint__", none,
    ["Private method returning an estimate of len(list(it))."]⟩,
   ⟨.rangeIterator, "__reduce__", none, ["Return state information for pickling."]⟩,
   ⟨.rangeIterator, "__setstate__", none, ["Set state information for unpickling."]⟩,
   ⟨.longRangeIterator, "__length_hint__", none,
    ["Private method returning an estimate of len(list(it))."]⟩,
   ⟨.longRangeIterator, "__reduce__", none, ["Return state information for pickling."]⟩,
   ⟨.longRangeIterator, "__setstate__", none, ["Set state information for unpickling."]⟩,
   ⟨.tupleIterator, "__length_hint__", none,
    ["Private method returning an estimate of len(list(it))."]⟩,
   ⟨.tupleIterator, "__reduce__", none, ["Return state information for pickling."]⟩,
   ⟨.tupleIterator, "__setstate__", none, ["Set state information for unpickling."]⟩,
   ⟨.keyIterator, "__length_hint__", none,
    ["Private method returning an estimate of len(list(it))."]⟩,
   ⟨.keyIterator, "__reduce__", none, ["Return state information for pickling."]⟩,
   ⟨.textIterator, "__length_hint__", none,
    ["Private method returning an estimate of len(list(it))."]⟩,
   ⟨.textIterator, "__reduce__", none, ["Return state information for pickling."]⟩,
   ⟨.textIterator, "__setstate__", none, ["Set state information for unpickling."]⟩,
   ⟨.asciiIterator, "__length_hint__", none,
    ["Private method returning an estimate of len(list(it))."]⟩,
   ⟨.asciiIterator, "__reduce__", none, ["Return state information for pickling."]⟩,
   ⟨.asciiIterator, "__setstate__", none, ["Set state information for unpickling."]⟩,
   ⟨.method, "__new__", some "($type, *args, **kwargs)",
    ["Create and return a new object.  See help(type) for accurate signature."]⟩,
   ⟨.method, "__reduce__", some "($self, /)", []⟩,
   ⟨.method, "__func__", none, ["the function (or other callable) implementing a method"]⟩,
   ⟨.method, "__self__", none, ["the instance to which a method is bound"]⟩,
   ⟨.function, "__new__", some "($type, *args, **kwargs)",
    ["Create and return a new object.  See help(type) for accurate signature."]⟩,
   ⟨.type, "__new__", some "($type, *args, **kwargs)",
    ["Create and return a new object.  See help(type) for accurate signature."]⟩,
   ⟨.type, "mro", some "($self, /)", ["Return a type's method resolution order."]⟩,
   ⟨.type, "__subclasses__", some "($self, /)", ["Return a list of immediate subclasses."]⟩,
   ⟨.type, "__prepare__", none,
    ["__prepare__() -> dict", "used to create the namespace for the class statement"]⟩,
   ⟨.type, "__instancecheck__", some "($self, instance, /)",
    ["Check if an object is an instance."]⟩,
   ⟨.type, "__subclasscheck__", some "($self, subclass, /)", ["Check if a class is a subclass."]⟩,
   ⟨.type, "__dir__", some "($self, /)", ["Specialized __dir__ implementation for types."]⟩,
   ⟨.type, "__sizeof__", some "($self, /)", ["Return memory consumption of the type object."]⟩]

namespace Kind

/-- The entry of a kind. -/
def manual? (k : Kind) : Option ManualEntry := kindEntries.find? (·.kind = k)

/-- The entry of a member that a kind declares. -/
def memberManual? (k : Kind) (name : String) : Option ManualEntry :=
  if k.nature? name = some .special then specialEntries.find? (·.member = name)
  else memberEntries.find? fun e => e.kind = k && e.member = name

end Kind

end Walkthrough
