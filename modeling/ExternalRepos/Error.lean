import ExternalRepos.AttributeType
import ExternalRepos.Location
import ExternalRepos.Value.Written

/-!
# Errors

Everything that can go wrong, by cause. The text shown to users is a function
of the cause (`Error.message`), and so is its class (`Error.kind`): callers
treat errors by class, as when an evaluation wraps every error that stops an
implementation and lets all others pass.
-/

namespace ExternalRepos

/-- The class of an error. -/
inductive ErrorKind
  /-- An error shown to extension code; it stops the running implementation. -/
  | evaluation
  /-- The name of a repository is missing, not a text, or not allowed. -/
  | repositoryName
  /-- A repository of the same name was declared before. -/
  | repositoryConflict
  /-- The attribute values of a declaration were rejected. -/
  | schemaValidation
  /-- A declaration came after the end of the evaluation. -/
  | registrySealed
  /-- Attribute values do not fit their schema. -/
  | invalidRule
  /-- A label or repository name has no valid syntax. -/
  | labelSyntax
  /-- A label refers to a repository that is not visible. -/
  | packageLookup
  /-- The implementation of an extension failed. -/
  | extensionEvaluation
  /-- Any other error of this library. -/
  | general
  /-- An argument has an unusable value. -/
  | value
  /-- Something was looked up that is not there. -/
  | key
  /-- A value lacks an operation. -/
  | missingOperation
  /-- A value has the wrong type for an operation. -/
  | type
  /-- Markup closes a tag that is not open. -/
  | markup
  /-- A directory stands where a file is to be written. -/
  | isDirectory
  /-- A path leads through something that is no directory. -/
  | notDirectory
  /-- A file stands where a directory is to be made. -/
  | fileExists
  /-- The system refuses an operation on files for another reason. -/
  | system
  /-- A file that should define something has the wrong contents. -/
  | notLoadable
  deriving DecidableEq, Inhabited

/-- Whether an error of this class stops an implementation, to be reported as its failure. -/
def ErrorKind.stopsEvaluation : ErrorKind → Bool
  | .evaluation | .repositoryName | .repositoryConflict | .schemaValidation
  | .registrySealed => true
  | _ => false

/-- Whether an error of this class means that a materializer rejected the attribute values. -/
def ErrorKind.rejectsValues : ErrorKind → Bool
  | .invalidRule | .labelSyntax | .packageLookup => true
  | _ => false

/-- What went wrong. -/
inductive Error
  /-- A label without any text. -/
  | emptyLabel
  /-- A repository part without a name and without a package. -/
  | malformedLabel (raw : String)
  | invalidPackage (raw : String)
  | invalidTarget (raw : String)
  | invalidRepository (name : String)
  | notVisible (apparent owner : String)
  | invalidUserName (name : String)
  /-- The `name` keyword of a declaration is no text. -/
  | nameNotText (typeName : String)
  | conflict (name : String) (first : Location)
  | sealed (repoPrefix : String)
  | unknownAttribute (key rule : String)
  | wrongType (expected : AttributeType) (key rule : String) (given : Value)
  | missingAttribute (key rule : String)
  /-- A default that should hold a label holds no text. -/
  | labelNotText (typeName : String)
  | labelBytes
  /-- A value that should hold labels or keys cannot be gone through. -/
  | notIterable (typeName : String)
  /-- A value that should bind keys binds none. -/
  | noBindings (typeName : String)
  /-- A value that holds a key as an item or as a part of a text binds nothing to it. -/
  | notBound (key typeName : String)
  | redefinedName (rule : String)
  | duplicateAttribute (key rule : String)
  /-- A rule instance was asked for an attribute that its schema lacks. -/
  | noSuchAttribute (key rule : String)
  /-- A specification was given a `name` attribute. -/
  | reservedName
  | missingKey (key : String)
  /-- A rule call has a keyword of the name of its own parameters. -/
  | reservedKeyword (key rule : String)
  | unknownEventKind (kind : String)
  | unknownAttributeType (name : String)
  /-- The attribute values of a declaration were rejected for a cause. -/
  | rejected (cause : Error)
  | outsideEvaluation (what : String)
  | outsideVendorFile (what : String)
  | vendorNameMissing
  | vendorNameNotCanonical
  | vendorNameInvalid (cause : Error)
  /-- The implementation of an extension was stopped by a cause. -/
  | extensionFailed (extension : String) (cause : Error)
  /-- A value that has no JSON form. -/
  | notSerializable (typeName : String)
  /-- A mapping key that has no JSON form. -/
  | keyNotSerializable (typeName : String)
  /-- Two keys that cannot be put in order. -/
  | unorderedKeys (leftType rightType : String)
  /-- Markup closes a tag that is not open. -/
  | unmatchedTag (markup : String)
  /-- A path with a character that no path can have. -/
  | nullInPath
  | nameTooLong (path : String)
  | pathIsDirectory (path : String)
  | pathThroughFile (path : String)
  | pathIsFile (path : String)
  /-- A file is no compiled definition file in spite of its ending. -/
  | wrongContents (path : String)
  /-- A variable of a definition file holds an operation that takes no context. -/
  | takesNoContext (variableName : String)
  /-- A program raised an error that consists of more than the text it gave. -/
  | onlyText (kind : ErrorKind)
  /-- An error raised by a program on its own account. -/
  | raised (kind : ErrorKind) (text : String)
  deriving DecidableEq, Inhabited

namespace Error

/-- The class of an error. -/
def kind : Error → ErrorKind
  | .emptyLabel | .malformedLabel _ | .invalidPackage _ | .invalidTarget _
  | .invalidRepository _ => .labelSyntax
  | .notVisible _ _ => .packageLookup
  | .invalidUserName _ | .nameNotText _ => .repositoryName
  | .conflict _ _ => .repositoryConflict
  | .sealed _ => .registrySealed
  | .unknownAttribute _ _ | .wrongType _ _ _ _ | .missingAttribute _ _ => .invalidRule
  | .labelNotText _ => .missingOperation
  | .noBindings _ => .missingOperation
  | .labelBytes | .notIterable _ | .notBound _ _ | .reservedKeyword _ _ | .takesNoContext _
  | .onlyText _ => .type
  | .redefinedName _ | .duplicateAttribute _ _ | .reservedName | .unknownEventKind _
  | .unknownAttributeType _ | .nullInPath => .value
  | .noSuchAttribute _ _ | .missingKey _ => .key
  | .rejected _ => .schemaValidation
  | .outsideEvaluation _ | .outsideVendorFile _ | .vendorNameMissing | .vendorNameNotCanonical
  | .vendorNameInvalid _ => .evaluation
  | .extensionFailed _ _ => .extensionEvaluation
  | .notSerializable _ | .keyNotSerializable _ | .unorderedKeys _ _ => .type
  | .unmatchedTag _ => .markup
  | .nameTooLong _ => .system
  | .pathIsDirectory _ => .isDirectory
  | .pathThroughFile _ => .notDirectory
  | .pathIsFile _ => .fileExists
  | .wrongContents _ => .notLoadable
  | .raised kind _ => kind

/-- The text of an error. -/
def message : Error → String
  | .emptyLabel => "empty label"
  | .malformedLabel raw => "invalid label '" ++ Text.sanitize raw ++ "'"
  | .invalidPackage raw => "invalid package name in label '" ++ Text.sanitize raw ++ "'"
  | .invalidTarget raw => "invalid target name in label '" ++ Text.sanitize raw ++ "'"
  | .invalidRepository name =>
      "invalid repository name '" ++ Text.sanitize name ++
        "': repo names may contain only A-Z, a-z, 0-9, '-', '_', '.' and '+'"
  | .notVisible apparent owner =>
      "No repository visible as '@" ++ apparent ++ "' from " ++ owner
  | .invalidUserName name =>
      "invalid user-provided repo name '" ++ Text.sanitize name ++
        "': valid names may contain only A-Z, a-z, 0-9, '-', '_', '.', and must start with a letter"
  | .nameNotText typeName =>
      "expected string for attribute 'name', got '" ++ typeName ++ "'"
  | .conflict name first =>
      "A repo named " ++ name ++ " is already generated by this module extension at " ++
        first.written
  | .sealed repoPrefix =>
      "cannot declare repositories after the generated repos of '" ++ repoPrefix ++
        "' were extracted"
  | .unknownAttribute key rule =>
      "no such attribute '" ++ key ++ "' in '" ++ rule ++ "' rule"
  | .wrongType expected key rule given =>
      "expected value of type '" ++ expected.name ++ "' for attribute '" ++ key ++
        "' in '" ++ rule ++ "' rule, got " ++ given.written ++ " (" ++ given.typeName ++ ")"
  | .missingAttribute key rule =>
      "missing value for mandatory attribute '" ++ key ++ "' in '" ++ rule ++ "' rule"
  | .labelNotText typeName => "expected a label, got a value of type '" ++ typeName ++ "'"
  | .labelBytes => "expected a label, got bytes"
  | .notIterable typeName => "a value of type '" ++ typeName ++ "' has no items"
  | .noBindings typeName => "a value of type '" ++ typeName ++ "' binds no keys"
  | .notBound key typeName =>
      "a value of type '" ++ typeName ++ "' binds nothing to " ++ Text.quote key
  | .redefinedName rule => "rule '" ++ rule ++ "' may not redefine the 'name' attribute"
  | .duplicateAttribute key rule =>
      "duplicate attribute '" ++ key ++ "' in rule '" ++ rule ++ "'"
  | .noSuchAttribute key rule =>
      "no such attribute '" ++ key ++ "' in '" ++ rule ++ "' rule"
  | .reservedName => "repository specifications never carry a 'name' attribute"
  | .missingKey key => key
  | .reservedKeyword key rule =>
      "keyword '" ++ key ++ "' of '" ++ rule ++ "' is a parameter of the call itself"
  | .unknownEventKind kind => Text.quote kind ++ " is not a valid EventKind"
  | .unknownAttributeType name => Text.quote name ++ " is not a valid AttributeType"
  | .rejected cause => cause.message
  | .outsideEvaluation what => what ++ " can only be called during module extension evaluation"
  | .outsideVendorFile what => what ++ " can only be called from VENDOR files"
  | .vendorNameMissing => "repo_name parameter must be specified"
  | .vendorNameNotCanonical => "repo_name parameter must be a canonical repo name"
  | .vendorNameInvalid cause => "Invalid repo name: " ++ cause.message
  | .extensionFailed extension cause =>
      "error evaluating module extension " ++ extension ++ ": " ++ cause.message
  | .notSerializable typeName => "a value of type '" ++ typeName ++ "' has no JSON form"
  | .keyNotSerializable typeName => "a key of type '" ++ typeName ++ "' has no JSON form"
  | .unorderedKeys leftType rightType =>
      "keys of the types '" ++ leftType ++ "' and '" ++ rightType ++ "' have no order"
  | .unmatchedTag markup => "a tag is closed that is not open in " ++ Text.quote markup
  | .nullInPath => "embedded null byte"
  | .nameTooLong path => "a name is too long in " ++ Text.quote path
  | .pathIsDirectory path => Text.quote path ++ " is a directory"
  | .pathThroughFile path => Text.quote path ++ " leads through a file"
  | .pathIsFile path => Text.quote path ++ " exists and is a file"
  | .wrongContents path => Text.quote path ++ " is no compiled definition file"
  | .takesNoContext variableName => "'" ++ variableName ++ "' takes no context"
  | .onlyText _ => "an error of this class takes more than a text"
  | .raised _ text => text

/-- The error that a program raises on its own account. A conflict and a failed evaluation
consist of more than a text, so none can be raised with a text alone. -/
def raise (kind : ErrorKind) (text : String) : Error :=
  match kind with
  | .repositoryConflict | .extensionEvaluation => .onlyText kind
  | _ => .raised kind text

/-- The error that this one was raised from. -/
def cause? : Error → Option Error
  | .rejected cause => some cause
  | .vendorNameInvalid cause => some cause
  | .extensionFailed _ cause => some cause
  | _ => none

end Error

end ExternalRepos
