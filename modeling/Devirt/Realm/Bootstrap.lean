import Devirt.Realm.World

/-
  The script that prepares a realm before any other runs.

  Everything that it does not allow is removed from the global object, the ways from texts
  to code are replaced as the limits say, texts and lists cannot be made too long, and
  random numbers come from a fixed seed.

  Key definitions include:
    * `preparation`
    * `prelude`
-/

namespace Devirt

namespace Realm

/-
  The lines of the preparation: a function of the global object and the limits.
-/
def preparationLines : List String :=
  [ "function (global, options) \x7b"
  , "  var allowed = ["
  , "    'globalThis', 'undefined', 'NaN', 'Infinity',"
  , "    'Object', 'Function', 'Array', 'String', 'Number', 'Boolean', 'Symbol', 'BigInt',"
  , "    'Math', 'JSON', 'Promise', 'RegExp', 'Map', 'Set', 'WeakMap', 'WeakSet',"
  , "    'Error', 'EvalError', 'RangeError', 'ReferenceError', 'SyntaxError', 'TypeError', 'URIError',"
  , "    'parseInt', 'parseFloat', 'isNaN', 'isFinite', 'eval',"
  , "    'escape', 'unescape', 'encodeURI', 'encodeURIComponent', 'decodeURI', 'decodeURIComponent'"
  , "  ];"
  , "  var getNames = Object.getOwnPropertyNames;"
  , "  var getProto = Object.getPrototypeOf;"
  , "  var define = Object.defineProperty;"
  , "  var toStr = String;"
  , "  var imul = Math.imul;"
  , "  var maxLength = options.maxStringLength;"
  , "  var maxElements = options.maxElements;"
  , "  var capture = options.dynamicCode === 'capture';"
  , ""
  , "  var names = getNames(global);"
  , "  for (var i = 0; i < names.length; i++) \x7b"
  , "    if (allowed.indexOf(names[i]) < 0) \x7b"
  , "      try \x7b delete global[names[i]]; \x7d catch (e) \x7b\x7d"
  , "    \x7d"
  , "  \x7d"
  , ""
  , "  function refuse() \x7b"
  , "    throw new EvalError('dynamic code evaluation is disabled in this sandbox');"
  , "  \x7d"
  , "  function constructorStub() \x7b"
  , "    if (!capture) refuse();"
  , "    var body = arguments.length ? toStr(arguments[arguments.length - 1]) : '';"
  , "    return function () \x7b return body; \x7d;"
  , "  \x7d"
  , "  function evalStub(source) \x7b"
  , "    if (!capture) refuse();"
  , "    return source;"
  , "  \x7d"
  , ""
  , "  var prototypes = ["
  , "    Function.prototype,"
  , "    getProto(function* () \x7b\x7d),"
  , "    getProto(async function () \x7b\x7d),"
  , "    getProto(async function* () \x7b\x7d)"
  , "  ];"
  , "  constructorStub.prototype = Function.prototype;"
  , "  for (var p = 0; p < prototypes.length; p++) \x7b"
  , "    define(prototypes[p], 'constructor', \x7b"
  , "      value: constructorStub, writable: false, configurable: false"
  , "    \x7d);"
  , "  \x7d"
  , "  define(global, 'Function', \x7b value: constructorStub, writable: false, configurable: false \x7d);"
  , "  define(global, 'eval', \x7b value: evalStub, writable: false, configurable: false \x7d);"
  , ""
  , "  var stringProto = String.prototype;"
  , "  var repeat = stringProto.repeat;"
  , "  var padStart = stringProto.padStart;"
  , "  var padEnd = stringProto.padEnd;"
  , "  function tooLong() \x7b"
  , "    throw new RangeError('string length limit exceeded');"
  , "  \x7d"
  , "  define(stringProto, 'repeat', \x7b value: function (count) \x7b"
  , "    var text = toStr(this);"
  , "    if (text.length * Number(count) > maxLength) tooLong();"
  , "    return repeat.call(text, count);"
  , "  \x7d\x7d);"
  , "  define(stringProto, 'padStart', \x7b value: function (length, fill) \x7b"
  , "    if (Number(length) > maxLength) tooLong();"
  , "    return padStart.call(toStr(this), length, fill);"
  , "  \x7d\x7d);"
  , "  define(stringProto, 'padEnd', \x7b value: function (length, fill) \x7b"
  , "    if (Number(length) > maxLength) tooLong();"
  , "    return padEnd.call(toStr(this), length, fill);"
  , "  \x7d\x7d);"
  , ""
  , "  var arrayProto = Array.prototype;"
  , "  var join = arrayProto.join;"
  , "  var fill = arrayProto.fill;"
  , "  var concat = stringProto.concat;"
  , "  define(arrayProto, 'join', \x7b value: function (separator) \x7b"
  , "    var count = Number(this.length);"
  , "    var width = separator === undefined ? 1 : toStr(separator).length;"
  , "    if (count > maxElements || count * width > maxLength) tooLong();"
  , "    return join.call(this, separator);"
  , "  \x7d\x7d);"
  , "  define(arrayProto, 'fill', \x7b value: function () \x7b"
  , "    if (Number(this.length) > maxElements) tooLong();"
  , "    return fill.apply(this, arguments);"
  , "  \x7d\x7d);"
  , "  define(stringProto, 'concat', \x7b value: function () \x7b"
  , "    var total = toStr(this).length;"
  , "    for (var k = 0; k < arguments.length; k++) total += toStr(arguments[k]).length;"
  , "    if (total > maxLength) tooLong();"
  , "    return concat.apply(toStr(this), arguments);"
  , "  \x7d\x7d);"
  , ""
  , "  var seed = 0x2545f491;"
  , "  Math.random = function () \x7b"
  , "    seed = (seed + 0x6d2b79f5) | 0;"
  , "    var t = imul(seed ^ (seed >>> 15), 1 | seed);"
  , "    t = (t + imul(t ^ (t >>> 7), 61 | t)) ^ t;"
  , "    return ((t ^ (t >>> 14)) >>> 0) / 4294967296;"
  , "  \x7d;"
  , "\x7d" ]

def preparation : String := "\n".intercalate preparationLines

/-
  The bytes that an element is taken to need.
-/
def elementBytes : Nat := 16

/-
  The preparation, called with the limits of a realm.
-/
def prelude (limits : Limits) : String :=
  "(" ++ preparation ++ ")(globalThis, \x7b maxStringLength: " ++ toString limits.maxStringLength
    ++ ", maxElements: " ++ toString (max (limits.maxStringLength / elementBytes) 1)
    ++ ", dynamicCode: '" ++ limits.dynamicCode.name ++ "' \x7d);"

end Realm

end Devirt
