import ParamGate.Text.Surrogate

/-!
# Faults

What can go wrong, by cause. Every constructor carries the texts that its message shows, and
`message` is the only place with wording. `DeclarationError` covers the mistakes in parameter and
endpoint declarations; the other faults come from values that an operation cannot handle. A message
is given by its codes, since names with surrogates are shown as they are.
-/

namespace ParamGate

open Text

/-- Mistakes in a declaration. Values are given by the text that the message shows. -/
inductive DeclarationError where
  /-- The declared type is not known. -/
  | unknownType (shown : Codes)
  /-- The compact form cannot be read. -/
  | unreadable (shown : String)
  /-- The declaration is neither a text nor a mapping. -/
  | notDeclaration (type : String)
  /-- A mapping has fields that declarations do not have. -/
  | unknownFields (names : List Codes)
  /-- A mapping has no type. -/
  | missingType
  /-- A bound is not a number. -/
  | badBound (name shown : String)
  /-- The endpoint declaration is not a mapping. -/
  | endpointNotMapping (place : Codes) (type : String)
  /-- The endpoint declaration has fields that endpoints do not have. -/
  | unknownEndpointFields (place : Codes) (names : List Codes)
  /-- The parameters of an endpoint are not a mapping. -/
  | parametersNotMapping (place : Codes)
  /-- The declaration of one parameter of an endpoint is wrong. -/
  | parameter (place name : Codes) (cause : DeclarationError)
deriving DecidableEq, Inhabited

/-- Names with commas between them. -/
def namesText (names : List Codes) : Codes := (codes ", ").intercalate names

/-- Wording of a mistake in a declaration. -/
def DeclarationError.message : DeclarationError → Codes
  | .unknownType shown => codes "Invalid type defined for parameter: " ++ shown
  | .unreadable shown => codes ("Cannot parse parameter specification: " ++ shown)
  | .notDeclaration type =>
      codes ("Given parameter is incompatible: expected str or mapping, got " ++ type)
  | .unknownFields names => codes "Unknown parameter specification keys: " ++ namesText names
  | .missingType => codes "Parameter specification is missing 'type'"
  | .badBound name shown =>
      codes ("Parameter bound '" ++ name ++ "' must be a number, got: " ++ shown)
  | .endpointNotMapping place type =>
      codes "Endpoint api for " ++ place ++ codes (" must be a mapping, got " ++ type)
  | .unknownEndpointFields place names =>
      codes "Unknown endpoint api keys for " ++ place ++ codes ": " ++ namesText names
  | .parametersNotMapping place =>
      codes "Endpoint params for " ++ place ++ codes " must be a mapping"
  | .parameter place name cause =>
      place ++ codes ": parameter '" ++ name ++ codes "': " ++ cause.message

/-- What is wrong with the value of a field. -/
inductive FieldMistake where
  | notText
  /-- Bytes that are no UTF-8, or a text with surrogates. -/
  | notUnicode
  | notNumber
  | notList
  /-- None of the values that there are, which are given as messages show them. -/
  | notListed (shown : String)
deriving DecidableEq, Inhabited

/-- Kind of a mistake in a field. -/
def FieldMistake.type : FieldMistake → String
  | .notText => "string_type"
  | .notUnicode => "string_unicode"
  | .notNumber => "float_type"
  | .notList => "list_type"
  | .notListed _ => "literal_error"

/-- Wording of a mistake in a field. -/
def FieldMistake.message : FieldMistake → String
  | .notText => "Input should be a valid string"
  | .notUnicode => "Input should be a valid string, unable to parse raw data as a unicode string"
  | .notNumber => "Input should be a valid number"
  | .notList => "Input should be a valid list"
  | .notListed shown => "Input should be " ++ shown

/-- One finding about a field of a record: where it is, what is wrong, and what was given there, by
its shortened text and its type. -/
structure FieldFinding where
  place : List String
  mistake : FieldMistake
  shown : String
  type : String
deriving DecidableEq, Inhabited

/-- Wording of a finding; `help` says where there is more about a mistake. -/
def FieldFinding.message (help : FieldMistake → String) (f : FieldFinding) : String :=
  String.intercalate "." f.place ++ "\n  " ++ f.mistake.message ++ " [type=" ++ f.mistake.type ++
    ", input_value=" ++ f.shown ++ ", input_type=" ++ f.type ++
    "]\n    For further information visit " ++ help f.mistake

/-- Faults. -/
inductive Fault where
  | declaration (cause : DeclarationError)
  /-- Two values have no order. -/
  | notOrdered (sign left right : String)
  | notIterable (type : String)
  /-- An entry of a table is given by something that has no parts. -/
  | notPair (index : Nat)
  /-- An entry of a table is not given by two parts. -/
  | pairLength (index length : Nat)
  | notCallable (type : String)
  | unhashable (type : String)
  | notMapping (type : String)
  | noAttribute (type name : String)
  /-- An attribute is named by something other than a text. -/
  | attributeName (type : String)
  /-- A list of texts has an item of another type. -/
  | notText (index : Nat) (type : String)
  | notSubscriptable (type : String)
  | missingKey (shown : String)
  /-- A value cannot be written as JSON. -/
  | notJson (type : String)
  /-- A key cannot be written as JSON. -/
  | notJsonKey (type : String)
  /-- A not-a-number or an infinity cannot be written as JSON. -/
  | notFinite
  /-- A text with surrogates cannot be sent. -/
  | loneSurrogate
  /-- An integer has too many digits to be written. -/
  | digitLimit
  /-- An integer has too many digits to be read. -/
  | tooManyDigits (count : Nat)
  /-- A response was already sent. -/
  | alreadySent
  /-- A function of the application failed with a text. -/
  | raised (text : String)
  /-- The front of paths does not start with a slash. -/
  | frontStart
  /-- The front of paths ends with a slash. -/
  | frontEnd
  /-- Neither the front of paths nor the path of a route has a character. -/
  | emptyPath
  /-- A path template names one parameter twice. -/
  | repeatedPathNames (names : List String) (path : String)
  /-- A path template names an unknown converter. -/
  | unknownConverter (name : String)
  /-- A header name has characters that headers cannot carry. -/
  | headerCharacters (description : String)
  /-- A settings field from the environment is not readable. -/
  | unreadableSetting (field : String)
  /-- Bytes that have to be UTF-8 go wrong at a byte. -/
  | notUtf8 (byte position : Nat)
  /-- A value of a type that listings do not show. -/
  | notShown (type : String)
  /-- A value has too many levels. -/
  | tooDeep
  /-- The index of a text is not an integer. -/
  | notIndex (type : String)
  /-- A text has no character at the index. -/
  | indexRange
  /-- No text is so long that it could have the index. -/
  | indexSize
  /-- A class of objects has no subscripts. -/
  | classNotSubscriptable (name : String)
  /-- Fields of a record have values of wrong types. -/
  | invalid (record : String) (findings : List FieldFinding)
deriving DecidableEq, Inhabited

/-- Wording of a fault; `help` says where there is more about a mistake in a field. -/
def Fault.message (help : FieldMistake → String) : Fault → Codes
  | .declaration cause => cause.message
  | .notOrdered sign left right =>
      codes ("'" ++ sign ++ "' not supported between instances of '" ++ left ++ "' and '" ++
        right ++ "'")
  | .notIterable type => codes ("'" ++ type ++ "' object is not iterable")
  | .notPair index =>
      codes ("cannot convert dictionary update sequence element #" ++ index.repr ++
        " to a sequence")
  | .pairLength index length =>
      codes ("dictionary update sequence element #" ++ index.repr ++ " has length " ++
        length.repr ++ "; 2 is required")
  | .notCallable type => codes ("'" ++ type ++ "' object is not callable")
  | .unhashable type => codes ("unhashable type: '" ++ type ++ "'")
  | .notMapping type => codes ("'" ++ type ++ "' object is not a mapping")
  | .noAttribute type name => codes ("'" ++ type ++ "' object has no attribute '" ++ name ++ "'")
  | .attributeName type => codes ("attribute name must be string, not '" ++ type ++ "'")
  | .notText index type =>
      codes ("sequence item " ++ index.repr ++ ": expected str instance, " ++ type ++ " found")
  | .notSubscriptable type => codes ("'" ++ type ++ "' object is not subscriptable")
  | .missingKey shown => codes shown
  | .notJson type => codes ("Object of type " ++ type ++ " is not JSON serializable")
  | .notJsonKey type => codes ("keys must be str, int, float, bool or None, not " ++ type)
  | .notFinite => codes "Out of range float values are not JSON compliant"
  | .loneSurrogate => codes "surrogates not allowed"
  | .digitLimit =>
      codes ("Exceeds the limit (4300 digits) for integer string conversion; " ++
        "use sys.set_int_max_str_digits() to increase the limit")
  | .tooManyDigits count =>
      codes ("Exceeds the limit (4300 digits) for integer string conversion: value has " ++
        count.repr ++ " digits; use sys.set_int_max_str_digits() to increase the limit")
  | .alreadySent => codes "Response already sent for this request"
  | .raised text => codes text
  | .frontStart => codes "A path prefix must start with '/'"
  | .frontEnd => codes "A path prefix must not end with '/', as the routes will start with '/'"
  | .emptyPath => codes "Prefix and path cannot be both empty (path operation: handler)"
  | .repeatedPathNames names path =>
      codes ("Duplicated param name" ++ (if names.length > 1 then "s " else " ") ++
        String.intercalate ", " names ++ " at path " ++ path)
  | .unknownConverter name => codes ("Unknown path convertor '" ++ name ++ "'")
  | .headerCharacters description => codes description
  | .unreadableSetting field =>
      codes ("error parsing value for field \"" ++ field ++ "\" from source \"EnvSettingsSource\"")
  | .notUtf8 byte position =>
      codes ("'utf-8' codec can't decode byte 0x" ++ String.ofList (Nat.toDigits 16 byte) ++
        " in position " ++ position.repr ++ ": invalid utf-8")
  | .notShown type => codes ("Unable to serialize unknown type: <class '" ++ type ++ "'>")
  | .tooDeep => codes "Circular reference detected (depth exceeded)"
  | .notIndex type => codes ("string indices must be integers, not '" ++ type ++ "'")
  | .indexRange => codes "string index out of range"
  | .indexSize => codes "cannot fit 'int' into an index-sized integer"
  | .classNotSubscriptable name => codes ("type '" ++ name ++ "' is not subscriptable")
  | .invalid record findings =>
      codes (findings.length.repr ++ " validation error" ++
        (if findings.length = 1 then "" else "s") ++ " for " ++ record ++ "\n" ++
        String.intercalate "\n" (findings.map (FieldFinding.message help)))

end ParamGate
