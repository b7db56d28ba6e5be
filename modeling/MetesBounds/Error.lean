import MetesBounds.Value

/-!
# `Error` — every way in which reading, evaluating or writing can fail

An error is its cause. `message` words it, `family` names the kind that audit trails record, and
the predicates on families say which of them a caller of the library is prepared to meet. Where a
message shows a value, the cause holds the value as it is shown (`Value.blamed`). A whole number of
very many digits has no text, and neither has a value that holds one: whoever writes such a value
fails over it, also where the text was only to go into the message of another error.
-/

set_option autoImplicit false

namespace MetesBounds

/-- The kinds of error. -/
inductive Family where
  | format | direction | missingContext | symbol | procedure | arguments | record | sheet
  | value | type | overflow | division | dimension | unit | unitText | assertion | tokens | sphere
  | missingFile | directory | notDirectory | existingFile | files | text | decoding | encoding
  | encodingName
  | key | part
  | foreign (name : String)

/-- The name of a kind of error. -/
def Family.name : Family → String
  | format => "FormatError"
  | direction => "UnknownDirectionError"
  | missingContext => "MissingContextError"
  | symbol => "UnresolvedSymbolError"
  | procedure => "UnknownFunctionError"
  | arguments => "FunctionArgumentError"
  | record => "UnknownRecordTypeError"
  | sheet => "RecordFileError"
  | value => "ValueError"
  | type => "TypeError"
  | overflow => "OverflowError"
  | division => "ZeroDivisionError"
  | dimension => "DimensionalityError"
  | unit => "UndefinedUnitError"
  | unitText => "DefinitionSyntaxError"
  | assertion => "AssertionError"
  | tokens => "TokenError"
  | sphere => "GeodError"
  | missingFile => "FileNotFoundError"
  | directory => "IsADirectoryError"
  | notDirectory => "NotADirectoryError"
  | existingFile => "FileExistsError"
  | files => "OSError"
  | text => "UnicodeError"
  | decoding => "UnicodeDecodeError"
  | encoding => "UnicodeEncodeError"
  | encodingName => "LookupError"
  | key => "KeyError"
  | part => "AttributeError"
  | foreign name => name

/-- An error that the evaluation of a traverse raises of its own. -/
def Family.ofTraverse : Family → Bool
  | format | direction | missingContext | symbol | procedure | arguments | record | sheet => true
  | _ => false

/-- An error of a value that is of the right kind and still not acceptable. -/
def Family.ofValue : Family → Bool
  | value | format | direction | sheet | text | decoding | encoding | unitText => true
  | foreign name => name == "ValueError"
  | _ => false

/-- An error of a value of the wrong kind. -/
def Family.ofType : Family → Bool
  | type | arguments | record | dimension => true
  | foreign name => name == "TypeError"
  | _ => false

/-- An error of the file system. -/
def Family.ofFiles : Family → Bool
  | missingFile | directory | notDirectory | existingFile | files => true
  | _ => false

/-- Why arguments do not fit the parameters of a procedure. -/
inductive Misfit where
  | missing (parameter : String)
  | tooMany

/-- What is wrong with a line of a call sheet. -/
inductive SheetFault where
  | headerWithoutKind
  | unknownKind (kind : String)
  | notANumber (field shown : String)
  | incomplete (kind record : String) (missing : List String)

/-- What was to be done with a zero that cannot be done. -/
inductive ZeroFault where
  | wholeQuotient
  | wholeFloor
  | wholeRemainder
  | doubleFloor
  | doubleRemainder
  | imaginaryQuotient
  | power
  | imaginaryPower

/-- What is wrong with the arrangement of an expression. -/
inductive ExpressionFault where
  | closingAlone (line column : Nat) (text : String)
  | unclosed
  | noUnary (sign : String)

/-- What is wrong with a label of a host name, or with a text written like one. -/
inductive LabelFault where
  | unfinished
  | notADigit (sign : Char)
  | noCharacter (code : Nat)
  | prohibited (shown : String)
  | bothDirections
  | directionAtEnds
  | size
  | isEncoded
  | otherwise (given own : String)
  /-- The text written in the letters of ASCII is wrong. -/
  | written (fault : LabelFault)

/-- The causes of failure. -/
inductive Error where
  | badAngle (shown : String)
  | badBearing (shown : String)
  | badDirection (shown : String)
  | noStart (label : String)
  | noTangent (label : String)
  | unresolved (name : String)
  | unknownProcedure (name : String)
  | misfit (procedure : String) (given : Nat) (why : Misfit)
  | notACall (shown : String)
  | unsupportedKind (line : Nat) (kind : String)
  | onLine (line : Nat) (fault : SheetFault)
  | emptyDelimiter
  | notADelimiter (kind : String)
  | notAnEncoding (kind : String)
  | notAnEnd (kind : String)
  | nulInName
  | notANumeral (shown : String)
  | tooManyDigits (count : Nat)
  | overlong
  | notReal (kind : String)
  | tooLarge
  | outOfRange
  | zeroDivisor
  | zero (fault : ZeroFault)
  | quotientTooLarge
  | powerTooLarge
  | notACount
  | notFinite (latitude longitude : String)
  | beyondPole (latitude : String)
  | notACoordinate
  | unevenRow (shape : List Nat)
  | tooManyRows (most : Nat)
  | emptyRow
  | severalItems
  | notOneNumber
  | notAScalar
  | noRealNumber (kind : String)
  | unequalRows
  | curveRadius (shown : String)
  | sphereRadius (shown : String)
  | earthRadius (shown : String)
  | noOrder (sign kind other : String)
  | noOpposite (kind : String)
  | noOperation (sign kind other : String)
  | noRepetition
  | notALabel (kind : String)
  | notAStart (kind : String)
  | notAStartItem (kind : String)
  | badExpression (fault : ExpressionFault)
  | noOperand
  | unfinishedExpression (lines : Nat)
  | unfinishedText (line column : Nat)
  | noQuantity
  | scaledUnit
  | scaledDimension
  | noFactor (name : String)
  | magnitude (shown : String)
  | noMagnitude
  | notAUnit (kind : String)
  | notAnExponent (kind : String)
  | undefinedUnit (name : String)
  | undefinedDimension (name : String)
  | wrongDimension (unit dimension other expected : String)
  | notDimensionless (unit : String)
  | unsupportedUnit (shown why : String)
  | openRing (points : Nat)
  | missingFields (record : String) (missing : List String)
  | strayField (record field : String)
  | procedureName (shown : String)
  | takenName (shown : String)
  | notCallable (shown what : String)
  | noRoomForTraverse (shown : String)
  | unhashable (kind : String)
  | notARow (kind : String)
  | notSpreadable (whose kind : String)
  | noLargest
  | noSuchPart (kind part : String)
  | noStation (shown : String)
  | noRun (id : String)
  | unknownLevel (shown : String)
  | notALevel (shown : String)
  | noFile (path : String)
  | isDirectory (path : String)
  | notDirectory (path : String)
  | fileExists (path : String)
  | nameTooLong (path : String)
  | nulInPath
  | undecodable (encoding at_ reason : String)
  | unencodable (halves : Text.Halves)
  | noByteOrderMark (encoding : String)
  | badLabel (fault : LabelFault)
  | undefinedEncoding
  | unknownEncoding (name : String)
  | notATextEncoding (name : String)
  | foreign (family message : String)

/-- Names in quotation marks, the last after an "and". -/
def listedNames : List String → String
  | [] => ""
  | [a] => Text.quoted a
  | [a, b] => Text.quoted a ++ " and " ++ Text.quoted b
  | names =>
    Text.listed (names.dropLast.map Text.quoted) ++ ", and " ++ Text.quoted (names.getLastD "")

/-- What a constructor says when required fields are absent. -/
def missingText (record : String) (missing : List String) : String :=
  record ++ ".__init__() missing " ++ toString missing.length ++ " required positional argument" ++
    (if missing.length = 1 then "" else "s") ++ ": " ++ listedNames missing

/-- The numbers of items of rows, one inside the other. -/
def shapeText : List Nat → String
  | [n] => "(" ++ toString n ++ ",)"
  | ns => "(" ++ Text.listed (ns.map toString) ++ ")"

/-- Why arguments do not fit, in words. -/
def Misfit.message : Misfit → String
  | missing parameter => "missing a required argument: " ++ Text.quoted parameter
  | tooMany => "too many positional arguments"

/-- What was to be done with a zero, in words. -/
def ZeroFault.message : ZeroFault → String
  | wholeQuotient => "division by zero"
  | wholeFloor => "integer division or modulo by zero"
  | wholeRemainder => "integer modulo by zero"
  | doubleFloor => "float floor division by zero"
  | doubleRemainder => "float modulo"
  | imaginaryQuotient => "complex division by zero"
  | power => "0.0 cannot be raised to a negative power"
  | imaginaryPower => "0.0 to a negative or complex power"

/-- A place in a text as messages show it. -/
def placeText (line column : Nat) : String :=
  "(" ++ toString line ++ ", " ++ toString column ++ ")"

/-- What is wrong with the arrangement of an expression, in words. -/
def ExpressionFault.message : ExpressionFault → String
  | closingAlone line column text =>
    "unopened parentheses in tokens: TokenInfo(type=54 (OP), string=')', start=" ++
      placeText line column ++ ", end=" ++ placeText line (column + 1) ++ ", line=" ++
      Text.quoted text ++ ")"
  | unclosed => "unclosed parentheses in tokens"
  | noUnary sign => "missing unary operator '" ++ sign ++ "'"

/-- Where halves of characters stand. -/
def halvesText (halves : Text.Halves) : String :=
  let position := toString halves.position
  if halves.count = 1 then
    "character " ++ Text.quoted (String.ofList (Text.heldAs halves.first)) ++ " in position " ++
      position
  else
    "characters in position " ++ position ++ "-" ++ toString (halves.position + halves.count - 1)

/-- The characters of a text that fit into so many bytes of UTF-8. In the place of one that fits in
part a replacement stands. -/
def charsWithin (bytes : Nat) : List Char → List Char
  | [] => []
  | c :: rest =>
    if bytes = 0 then []
    else if bytes < c.utf8Size then ['\ufffd']
    else c :: charsWithin (bytes - c.utf8Size) rest

/-- As much of a name as messages show. -/
def shortened (name : String) : String :=
  String.ofList (Text.ofChars (charsWithin 400 ((Text.codes name).map Char.ofNat)))

/-- What is wrong with a label, in words. -/
def LabelFault.message : LabelFault → String
  | unfinished => "incomplete punicode string"
  | notADigit sign => "Invalid extended code point '" ++ sign.toString ++ "'"
  | noCharacter code => "Invalid character U+" ++ String.ofList (Nat.toDigits 16 code)
  | prohibited shown => "Invalid character " ++ shown
  | bothDirections => "Violation of BIDI requirement 2"
  | directionAtEnds => "Violation of BIDI requirement 3"
  | size => "label empty or too long"
  | isEncoded => "Label starts with ACE prefix"
  | otherwise given own =>
    "('IDNA does not round-trip', b" ++ Text.quoted given ++ ", b" ++ Text.quoted own ++ ")"
  | written fault => "decoding with 'punycode' codec failed (UnicodeError: " ++ fault.message ++ ")"

/-- What is wrong with a line, in words. -/
def SheetFault.message : SheetFault → String
  | headerWithoutKind => "Header line without a record kind"
  | unknownKind kind => "Unknown type: " ++ kind
  | notANumber field shown => "Column " ++ Text.quoted field ++ " expects a number, got " ++ shown
  | incomplete kind record missing =>
    "Incomplete " ++ kind ++ " record: " ++ missingText record missing

namespace Error

/-- The kind of an error. -/
def family : Error → Family
  | badAngle _ | badBearing _ => .format
  | badDirection _ => .direction
  | noStart _ | noTangent _ => .missingContext
  | unresolved _ => .symbol
  | unknownProcedure _ => .procedure
  | misfit .. => .arguments
  | notACall _ | unsupportedKind .. => .record
  | onLine .. => .sheet
  | emptyDelimiter | notANumeral _ | tooManyDigits _ | overlong | notACount | notFinite ..
  | beyondPole _ | unevenRow _ | tooManyRows _ | emptyRow | severalItems | curveRadius _
  | sphereRadius _ | earthRadius _ | scaledUnit | scaledDimension | noQuantity | noMagnitude
  | undefinedDimension _ | unsupportedUnit .. | openRing _
  | procedureName _ | takenName _ | unknownLevel _ | nulInPath | nulInName => .value
  | notALevel _ | notAUnit _ | notAnExponent _ | magnitude _ | notReal _ | noRealNumber _
  | notAScalar | notACoordinate | notOneNumber | noOrder .. | noOpposite _ | noOperation ..
  | noRepetition
  | notALabel _ | notAStart _ | notAStartItem _ | missingFields .. | strayField ..
  | notCallable .. | noRoomForTraverse _ | unhashable _ | notARow _ | notSpreadable ..
  | noLargest | notADelimiter _ | notAnEncoding _ | notAnEnd _ => .type
  | tooLarge | outOfRange | quotientTooLarge | powerTooLarge => .overflow
  | zeroDivisor | zero _ => .division
  | undefinedUnit _ => .unit
  | badExpression _ => .unitText
  | noOperand => .assertion
  | unfinishedExpression _ | unfinishedText .. => .tokens
  | unequalRows => .sphere
  | wrongDimension .. | notDimensionless _ => .dimension
  | noSuchPart .. => .part
  | noStation _ | noRun _ | noFactor _ => .key
  | noFile _ => .missingFile
  | isDirectory _ => .directory
  | notDirectory _ => .notDirectory
  | fileExists _ => .existingFile
  | nameTooLong _ => .files
  | undecodable .. => .decoding
  | unencodable _ => .encoding
  | noByteOrderMark _ | badLabel _ | undefinedEncoding => .text
  | unknownEncoding _ | notATextEncoding _ => .encodingName
  | foreign name _ => .foreign name

/-- An error in words. -/
def message : Error → String
  | badAngle shown => "Invalid angle: " ++ shown
  | badBearing shown => "Invalid bearing: " ++ shown
  | badDirection shown => "Unknown direction: " ++ shown
  | noStart label => "Line " ++ Text.quoted label ++ " has no starting point"
  | noTangent label =>
    "Curve " ++ Text.quoted label ++ " needs two prior points to find its tangent"
  | unresolved name => "Unresolved symbol: $" ++ name
  | unknownProcedure name => "Unknown function: " ++ name
  | misfit procedure given why =>
    procedure ++ " cannot take " ++ toString given ++ " argument(s): " ++ why.message
  | notACall shown => "Unexpected record type: " ++ shown
  | unsupportedKind line kind =>
    "line " ++ toString line ++ ": unsupported record kind " ++ Text.quoted kind
  | onLine line fault => "line " ++ toString line ++ ": " ++ fault.message
  | emptyDelimiter => "empty separator"
  | notADelimiter kind => "must be str or None, not " ++ kind
  | notAnEncoding kind => "open() argument 'encoding' must be str or None, not " ++ kind
  | notAnEnd kind => "endswith first arg must be str or a tuple of str, not " ++ kind
  | nulInName => "embedded null character"
  | notANumeral shown => "could not convert string to float: " ++ shown
  | tooManyDigits count =>
    "Exceeds the limit (4300 digits) for integer string conversion: value has " ++ toString count ++
      " digits; use sys.set_int_max_str_digits() to increase the limit"
  | overlong =>
    "Exceeds the limit (4300 digits) for integer string conversion; " ++
      "use sys.set_int_max_str_digits() to increase the limit"
  | notReal kind => "float() argument must be a string or a real number, not " ++ Text.quoted kind
  | tooLarge => "int too large to convert to float"
  | outOfRange => "(34, 'Numerical result out of range')"
  | zeroDivisor => "float division by zero"
  | zero fault => fault.message
  | quotientTooLarge => "integer division result too large for a float"
  | powerTooLarge => "complex exponentiation"
  | notACount => "cannot convert float NaN to integer"
  | notFinite latitude longitude =>
    "Non-finite coordinate (" ++ latitude ++ ", " ++ longitude ++ ")"
  | beyondPole latitude =>
    "Latitude " ++ latitude ++
      " out of range [-90, 90]. Were latitude and longitude swapped?"
  | notACoordinate =>
    "ufunc 'isfinite' not supported for the input types, and the inputs could not be safely " ++
      "coerced to any supported types according to the casting rule ''safe''"
  | unevenRow shape =>
    "setting an array element with a sequence. The requested array has an inhomogeneous shape " ++
      "after " ++ toString shape.length ++ " dimensions. The detected shape was " ++
      shapeText shape ++ " + inhomogeneous part."
  | tooManyRows most =>
    "setting an array element with a sequence. The requested array would exceed the maximum " ++
      "number of dimension of " ++ toString most ++ "."
  | emptyRow =>
    "The truth value of an empty array is ambiguous. Use `array.size > 0` to check that an " ++
      "array is not empty."
  | severalItems =>
    "The truth value of an array with more than one element is ambiguous. Use a.any() or a.all()"
  | notOneNumber => "only 0-dimensional arrays can be converted to Python scalars"
  | notAScalar => "input must be a scalar"
  | noRealNumber kind => "must be real number, not " ++ kind
  | unequalRows => "Array lengths are not the same."
  | curveRadius shown => "Curve radius must be positive, got " ++ shown
  | sphereRadius shown => "Sphere radius must be positive, got " ++ shown
  | earthRadius shown => "Earth radius must be positive, got " ++ shown
  | noOrder sign kind other =>
    Text.quoted sign ++ " not supported between instances of " ++ Text.quoted kind ++ " and " ++
      Text.quoted other
  | noOpposite kind => "bad operand type for unary -: " ++ Text.quoted kind
  | noOperation sign kind other =>
    "unsupported operand type(s) for " ++ sign ++ ": " ++ Text.quoted kind ++ " and " ++
      Text.quoted other
  | noRepetition => "can't multiply sequence by non-int of type 'float'"
  | notALabel kind => "can only concatenate str (not \"" ++ kind ++ "\") to str"
  | notAStart kind => "startswith first arg must be str or a tuple of str, not " ++ kind
  | notAStartItem kind => "tuple for startswith must only contain str, not " ++ kind
  | badExpression fault => fault.message
  | noOperand => ""
  | unfinishedExpression lines =>
    "('EOF in multi-line statement', " ++ placeText (lines + 1) 0 ++ ")"
  | unfinishedText line column =>
    "('EOF in multi-line string', " ++ placeText line column ++ ")"
  | noQuantity => "Expression to parse as Quantity cannot be an empty string."
  | scaledDimension => "Only scale 1 ParserHelper instance should be considered hashable"
  | noFactor name => name
  | scaledUnit => "Unit expression cannot have a scaling factor."
  | magnitude shown => "Invalid magnitude for Quantity: " ++ shown
  | noMagnitude => "Quantity magnitude cannot be an empty string."
  | notAUnit kind =>
    "units must be of type str, PlainQuantity or UnitsContainer; not <class " ++ Text.quoted kind ++
      ">."
  | notAnExponent kind => "value must be a number, not <class " ++ Text.quoted kind ++ ">"
  | undefinedUnit name => "'" ++ name ++ "' is not defined in the unit registry"
  | undefinedDimension name => name ++ " is not defined as dimension in the pint UnitRegistry"
  | wrongDimension unit dimension other expected =>
    "Cannot convert from '" ++ unit ++ "' (" ++ dimension ++ ") to '" ++ other ++ "' (" ++
      expected ++ ")"
  | notDimensionless unit => "Cannot convert from '" ++ unit ++ "' to 'dimensionless'"
  | unsupportedUnit shown why => "Unsupported distance unit " ++ shown ++ ": " ++ why
  | openRing points =>
    "A polygon ring needs at least 3 distinct points, got " ++ toString points ++ " point(s)"
  | missingFields record missing => missingText record missing
  | strayField record field =>
    record ++ ".__init__() got an unexpected keyword argument " ++ Text.quoted field
  | procedureName shown => "Function name must be a non-empty string, got " ++ shown
  | takenName shown => "Function " ++ shown ++ " is already registered"
  | notCallable shown what => "Function " ++ shown ++ " is not callable: " ++ what
  | noRoomForTraverse shown =>
    "Function " ++ shown ++ " must accept the traverse context as its first argument"
  | unhashable kind => "unhashable type: " ++ Text.quoted kind
  | notARow kind => Text.quoted kind ++ " object is not iterable"
  | notSpreadable whose kind =>
    whose ++ " after * must be an iterable, not " ++ kind
  | noLargest => "max expected at least 1 argument, got 0"
  | noSuchPart kind part => Text.quoted kind ++ " object has no attribute " ++ Text.quoted part
  | noStation shown => "No point produced by record " ++ shown
  | noRun id => "No run found with ID " ++ id
  | unknownLevel shown => "Unknown level: " ++ shown
  | notALevel shown => "Level not an integer or a valid string: " ++ shown
  | noFile path => "[Errno 2] No such file or directory: " ++ Text.quoted path
  | isDirectory path => "[Errno 21] Is a directory: " ++ Text.quoted path
  | notDirectory path => "[Errno 20] Not a directory: " ++ Text.quoted path
  | fileExists path => "[Errno 17] File exists: " ++ Text.quoted path
  | nameTooLong path => "[Errno 36] File name too long: " ++ Text.quoted path
  | nulInPath => "embedded null byte"
  | undecodable encoding at_ reason =>
    Text.quoted encoding ++ " codec can't decode " ++ at_ ++ ": " ++ reason
  | unencodable halves => "'utf-8' codec can't encode " ++ halvesText halves ++
      ": surrogates not allowed"
  | badLabel fault => fault.message
  | undefinedEncoding => "undefined encoding"
  | unknownEncoding name => "unknown encoding: " ++ name
  | noByteOrderMark encoding => encoding ++ " stream does not start with BOM"
  | notATextEncoding name =>
    "'" ++ shortened name ++
      "' is not a text encoding; use codecs.open() to handle arbitrary codecs"
  | foreign _ message => message

/-- What an audit trail records of an error. The message of a failed look-up stands in quotation
marks there. -/
def recorded (e : Error) : String :=
  let text := if e.family.name == "KeyError" then Text.quoted e.message else e.message
  e.family.name ++ ": " ++ text

end Error

/-! ## Values in messages -/

namespace Value

variable (v : Value)

/-- A value as messages show it. -/
def written : Except Error String :=
  if v.isOverlong then .error .overlong else .ok v.shown

/-- A value as plain text. -/
def plainText : Except Error String :=
  if v.isOverlong then .error .overlong else .ok v.plain

/-- An error whose message shows a value. -/
def blamed (e : String → Error) : Error :=
  if v.isOverlong then .overlong else e v.shown

/-- An error whose message gives a value as plain text. -/
def blamedPlain (e : String → Error) : Error :=
  if v.isOverlong then .overlong else e v.plain

end Value

end MetesBounds
