/-
  The functions of the standard library, by name.

  The functions of each part of the library are listed with the name under which they
  are known and the number of arguments they expect.

  Key definitions include:
    * `Native`, all functions
    * the lists of functions, such as `ArrayMethod.table`
-/

namespace Devirt

namespace Realm

------------------------------------------------------------
-- Objects and Functions
------------------------------------------------------------

inductive ObjectFunction where
  | assign | create | defineProperties | defineProperty | entries | freeze | fromEntries
  | getDescriptor | getDescriptors | getNames | getSymbols | getPrototype | groupBy | hasOwn
  | same | isExtensible | isFrozen | isSealed | keys | preventExtensions | close | setPrototype
  | values
  deriving DecidableEq, Repr

def ObjectFunction.table : List (ObjectFunction × String × Nat) :=
  [ (assign, "assign", 2), (create, "create", 2), (defineProperties, "defineProperties", 2)
  , (defineProperty, "defineProperty", 3), (entries, "entries", 1), (freeze, "freeze", 1)
  , (fromEntries, "fromEntries", 1), (getDescriptor, "getOwnPropertyDescriptor", 2)
  , (getDescriptors, "getOwnPropertyDescriptors", 1), (getNames, "getOwnPropertyNames", 1)
  , (getSymbols, "getOwnPropertySymbols", 1), (getPrototype, "getPrototypeOf", 1)
  , (groupBy, "groupBy", 2), (hasOwn, "hasOwn", 2), (same, "is", 2)
  , (isExtensible, "isExtensible", 1), (isFrozen, "isFrozen", 1), (isSealed, "isSealed", 1)
  , (keys, "keys", 1), (preventExtensions, "preventExtensions", 1), (close, "seal", 1)
  , (setPrototype, "setPrototypeOf", 2), (values, "values", 1) ]

inductive ObjectMethod where
  | hasOwnProperty | isPrototypeOf | propertyIsEnumerable | toLocaleString | toText | valueOf
  deriving DecidableEq, Repr

def ObjectMethod.table : List (ObjectMethod × String × Nat) :=
  [ (hasOwnProperty, "hasOwnProperty", 1), (isPrototypeOf, "isPrototypeOf", 1)
  , (propertyIsEnumerable, "propertyIsEnumerable", 1), (toLocaleString, "toLocaleString", 0)
  , (toText, "toString", 0), (valueOf, "valueOf", 0) ]

inductive FunctionMethod where
  | apply | bind | call | toText | hasInstance
  deriving DecidableEq, Repr

def FunctionMethod.table : List (FunctionMethod × String × Nat) :=
  [(apply, "apply", 2), (bind, "bind", 1), (call, "call", 1), (toText, "toString", 0)]

------------------------------------------------------------
-- Lists
------------------------------------------------------------

inductive ArrayFunction where
  | isArray | ofItems | fromItems
  deriving DecidableEq, Repr

def ArrayFunction.table : List (ArrayFunction × String × Nat) :=
  [(.isArray, "isArray", 1), (.ofItems, "of", 0), (.fromItems, "from", 1)]

inductive ArrayMethod where
  | atIndex | concat | copyWithin | entries | every | fill | filter | find | findIndex | findLast
  | findLastIndex | flat | flatMap | forEach | includes | indexOf | join | keys | lastIndexOf
  | map | pop | push | reduce | reduceRight | reverse | shift | slice | some | sort | splice
  | toLocaleString | toReversed | toSorted | toSpliced | toText | unshift | values | replaced
  deriving DecidableEq, Repr

def ArrayMethod.table : List (ArrayMethod × String × Nat) :=
  [ (.atIndex, "at", 1), (.concat, "concat", 1), (.copyWithin, "copyWithin", 2)
  , (.entries, "entries", 0), (.every, "every", 1), (.fill, "fill", 1), (.filter, "filter", 1)
  , (.find, "find", 1), (.findIndex, "findIndex", 1), (.findLast, "findLast", 1)
  , (.findLastIndex, "findLastIndex", 1), (.flat, "flat", 0), (.flatMap, "flatMap", 1)
  , (.forEach, "forEach", 1), (.includes, "includes", 1), (.indexOf, "indexOf", 1)
  , (.join, "join", 1), (.keys, "keys", 0), (.lastIndexOf, "lastIndexOf", 1), (.map, "map", 1)
  , (.pop, "pop", 0), (.push, "push", 1), (.reduce, "reduce", 1)
  , (.reduceRight, "reduceRight", 1), (.reverse, "reverse", 0), (.shift, "shift", 0)
  , (.slice, "slice", 2), (.some, "some", 1), (.sort, "sort", 1), (.splice, "splice", 2)
  , (.toLocaleString, "toLocaleString", 0), (.toReversed, "toReversed", 0)
  , (.toSorted, "toSorted", 1), (.toSpliced, "toSpliced", 2), (.toText, "toString", 0)
  , (.unshift, "unshift", 1), (.values, "values", 0), (.replaced, "with", 2) ]

------------------------------------------------------------
-- Texts
------------------------------------------------------------

inductive StringFunction where
  | fromCharCode | fromCodePoint | raw
  deriving DecidableEq, Repr

def StringFunction.table : List (StringFunction × String × Nat) :=
  [(fromCharCode, "fromCharCode", 1), (fromCodePoint, "fromCodePoint", 1), (raw, "raw", 1)]

inductive StringMethod where
  | atIndex | charAt | charCodeAt | codePointAt | concat | endsWith | includes | indexOf
  | isWellFormed | lastIndexOf | localeCompare | matches | matchAll | normalize | padEnd | padStart
  | repeated | replace | replaceAll | search | slice | split | startsWith | substring
  | toLocaleLowerCase | toLocaleUpperCase | toLowerCase | toText | toUpperCase | toWellFormed
  | trim | trimEnd | trimStart | valueOf | iterate
  deriving DecidableEq, Repr

def StringMethod.table : List (StringMethod × String × Nat) :=
  [ (.atIndex, "at", 1), (.charAt, "charAt", 1), (.charCodeAt, "charCodeAt", 1)
  , (.codePointAt, "codePointAt", 1), (.concat, "concat", 1), (.endsWith, "endsWith", 1)
  , (.includes, "includes", 1), (.indexOf, "indexOf", 1), (.isWellFormed, "isWellFormed", 0)
  , (.lastIndexOf, "lastIndexOf", 1), (.localeCompare, "localeCompare", 1)
  , (.matches, "match", 1), (.matchAll, "matchAll", 1), (.normalize, "normalize", 0)
  , (.padEnd, "padEnd", 1), (.padStart, "padStart", 1), (.repeated, "repeat", 1)
  , (.replace, "replace", 2), (.replaceAll, "replaceAll", 2), (.search, "search", 1)
  , (.slice, "slice", 2), (.split, "split", 2), (.startsWith, "startsWith", 1)
  , (.substring, "substring", 2), (.toLocaleLowerCase, "toLocaleLowerCase", 0)
  , (.toLocaleUpperCase, "toLocaleUpperCase", 0), (.toLowerCase, "toLowerCase", 0)
  , (.toText, "toString", 0), (.toUpperCase, "toUpperCase", 0)
  , (.toWellFormed, "toWellFormed", 0), (.trim, "trim", 0), (.trimEnd, "trimEnd", 0)
  , (.trimStart, "trimStart", 0), (.valueOf, "valueOf", 0) ]

------------------------------------------------------------
-- Numbers
------------------------------------------------------------

inductive NumberFunction where
  | isFinite | isInteger | isNaN | isSafeInteger
  deriving DecidableEq, Repr

def NumberFunction.table : List (NumberFunction × String × Nat) :=
  [ (isFinite, "isFinite", 1), (isInteger, "isInteger", 1), (isNaN, "isNaN", 1)
  , (isSafeInteger, "isSafeInteger", 1) ]

inductive NumberMethod where
  | toExponential | toFixed | toLocaleString | toPrecision | toText | valueOf
  deriving DecidableEq, Repr

def NumberMethod.table : List (NumberMethod × String × Nat) :=
  [ (toExponential, "toExponential", 1), (toFixed, "toFixed", 1)
  , (toLocaleString, "toLocaleString", 0), (toPrecision, "toPrecision", 1)
  , (toText, "toString", 1), (valueOf, "valueOf", 0) ]

inductive MathFunction where
  | abs | acos | acosh | asin | asinh | atan | atan2 | atanh | cbrt | ceil | clz32 | cos | cosh
  | exp | expm1 | floor | fround | hypot | imul | log | log10 | log1p | log2 | max | min | pow
  | random | round | sign | sin | sinh | sqrt | tan | tanh | trunc
  deriving DecidableEq, Repr

def MathFunction.table : List (MathFunction × String × Nat) :=
  [ (abs, "abs", 1), (acos, "acos", 1), (acosh, "acosh", 1), (asin, "asin", 1)
  , (asinh, "asinh", 1), (atan, "atan", 1), (atan2, "atan2", 2), (atanh, "atanh", 1)
  , (cbrt, "cbrt", 1), (ceil, "ceil", 1), (clz32, "clz32", 1), (cos, "cos", 1)
  , (cosh, "cosh", 1), (exp, "exp", 1), (expm1, "expm1", 1), (floor, "floor", 1)
  , (fround, "fround", 1), (hypot, "hypot", 2), (imul, "imul", 2), (log, "log", 1)
  , (log10, "log10", 1), (log1p, "log1p", 1), (log2, "log2", 1), (max, "max", 2)
  , (min, "min", 2), (pow, "pow", 2), (random, "random", 0), (round, "round", 1)
  , (sign, "sign", 1), (sin, "sin", 1), (sinh, "sinh", 1), (sqrt, "sqrt", 1), (tan, "tan", 1)
  , (tanh, "tanh", 1), (trunc, "trunc", 1) ]

inductive BigintFunction where
  | asIntN | asUintN | toText | valueOf
  deriving DecidableEq, Repr

------------------------------------------------------------
-- Other Parts
------------------------------------------------------------

inductive SymbolFunction where
  | forKey | keyFor | toText | valueOf | description
  deriving DecidableEq, Repr

inductive RegexpMethod where
  | exec | test | toText | source | flags | matches | matchAll | replace | search | split
  /- the getter of one flag -/
  | flag (letter : Char)
  deriving DecidableEq, Repr

inductive JsonFunction where
  | parse | stringify
  deriving DecidableEq, Repr

inductive CollectionMethod where
  | get | set | add | has | delete | clear | size | forEach | keys | values | entries
  deriving DecidableEq, Repr

/-
  The kinds of collections.
-/
inductive Collection where
  | map | set | weakMap | weakSet
  deriving DecidableEq, Repr

/-
  What is iterated over.
-/
inductive IteratorKind where
  | list | text | map | set | matches
  deriving DecidableEq, Repr

/-
  The name by which iterators of a kind are known.
-/
def IteratorKind.tag : IteratorKind → String
  | .list => "Array Iterator"
  | .text => "String Iterator"
  | .map => "Map Iterator"
  | .set => "Set Iterator"
  | .matches => "RegExp String Iterator"

def IteratorKind.all : List IteratorKind := [.list, .text, .map, .set, .matches]

/-
  How a generator is told to go on.
-/
inductive GeneratorMethod where
  | next | finish | raise
  deriving DecidableEq, Repr

def GeneratorMethod.table : List (GeneratorMethod × String × Nat) :=
  [(next, "next", 1), (finish, "return", 1), (raise, "throw", 1)]

inductive PromiseFunction where
  | andThen | orElse | atLast | resolve | reject | all | allSettled | any | race
  /- what a promise hands to the function that settles it -/
  | settle
  deriving DecidableEq, Repr

inductive GlobalFunction where
  | parseInt | parseFloat | isNaN | isFinite | encodeURI | encodeURIComponent | decodeURI
  | decodeURIComponent | eval
  deriving DecidableEq, Repr

def GlobalFunction.table : List (GlobalFunction × String × Nat) :=
  [ (parseInt, "parseInt", 2), (parseFloat, "parseFloat", 1), (isNaN, "isNaN", 1)
  , (isFinite, "isFinite", 1), (encodeURI, "encodeURI", 1)
  , (encodeURIComponent, "encodeURIComponent", 1), (decodeURI, "decodeURI", 1)
  , (decodeURIComponent, "decodeURIComponent", 1), (eval, "eval", 1) ]

/-
  The kinds of errors.
-/
inductive ErrorKind where
  | error | eval | range | reference | parsing | type | uri
  deriving DecidableEq, Repr

def ErrorKind.all : List ErrorKind :=
  [.error, .eval, .range, .reference, .parsing, .type, .uri]

def ErrorKind.name : ErrorKind → String
  | error => "Error"
  | eval => "EvalError"
  | range => "RangeError"
  | reference => "ReferenceError"
  | parsing => "SyntaxError"
  | type => "TypeError"
  | uri => "URIError"

/-
  The functions that make objects.
-/
inductive Maker where
  | object | function | array | string | number | boolean | symbol | bigint | regexp | promise
  | collection (c : Collection)
  | error (k : ErrorKind)
  deriving DecidableEq, Repr

inductive Native where
  | make (m : Maker)
  | object (f : ObjectFunction)
  | objectMethod (f : ObjectMethod)
  | function (f : FunctionMethod)
  | array (f : ArrayFunction)
  | arrayMethod (f : ArrayMethod)
  | string (f : StringFunction)
  | stringMethod (f : StringMethod)
  | number (f : NumberFunction)
  | numberMethod (f : NumberMethod)
  | booleanToText
  | booleanValueOf
  | math (f : MathFunction)
  | bigint (f : BigintFunction)
  | symbol (f : SymbolFunction)
  | regexp (f : RegexpMethod)
  | json (f : JsonFunction)
  | collection (c : Collection) (f : CollectionMethod)
  | promise (f : PromiseFunction)
  | global (f : GlobalFunction)
  | mapGroupBy
  | errorToText
  | iteratorNext (k : IteratorKind)
  | generator (f : GeneratorMethod)
  | asyncGenerator (f : GeneratorMethod)
  /- gives back what it is called on -/
  | itself
  /- refuses to tell about a call -/
  | refuse
  /- does nothing -/
  | nothing
  deriving DecidableEq, Repr

end Realm

end Devirt
