import HeaderCatalog.Json.Reader
import HeaderCatalog.Json.Value

/-!
# Kinds and marks of nodes

The kinds of cursors that matter here (all others are `other`), how a pointer type treats null, and the attributes of
a property, one bit each.
-/

namespace HeaderCatalog

/-! ## Cursors -/

/-- What a cursor stands for. -/
inductive CursorKind where
  | translationUnit
  | interfaceDeclaration
  | categoryDeclaration
  | protocolDeclaration
  | superclassReference
  | protocolReference
  | classReference
  | propertyDeclaration
  | instanceMethodDeclaration
  | classMethodDeclaration
  | instanceVariableDeclaration
  | parameterDeclaration
  | typeReference
  | typedefDeclaration
  | structDeclaration
  | enumDeclaration
  | functionDeclaration
  | other
deriving DecidableEq, Repr

namespace CursorKind

/-- The name of a kind in documents. -/
def name : CursorKind → String
  | translationUnit => "TranslationUnit"
  | interfaceDeclaration => "ObjCInterfaceDecl"
  | categoryDeclaration => "ObjCCategoryDecl"
  | protocolDeclaration => "ObjCProtocolDecl"
  | superclassReference => "ObjCSuperClassRef"
  | protocolReference => "ObjCProtocolRef"
  | classReference => "ObjCClassRef"
  | propertyDeclaration => "ObjCPropertyDecl"
  | instanceMethodDeclaration => "ObjCInstanceMethodDecl"
  | classMethodDeclaration => "ObjCClassMethodDecl"
  | instanceVariableDeclaration => "ObjCIvarDecl"
  | parameterDeclaration => "ParmDecl"
  | typeReference => "TypeRef"
  | typedefDeclaration => "TypedefDecl"
  | structDeclaration => "StructDecl"
  | enumDeclaration => "EnumDecl"
  | functionDeclaration => "FunctionDecl"
  | other => "Other"

/-- The kinds with a name of their own. -/
def named : List CursorKind := [translationUnit, interfaceDeclaration, categoryDeclaration, protocolDeclaration,
  superclassReference, protocolReference, classReference, propertyDeclaration, instanceMethodDeclaration,
  classMethodDeclaration, instanceVariableDeclaration, parameterDeclaration, typeReference, typedefDeclaration,
  structDeclaration, enumDeclaration, functionDeclaration]

/-- The kind of a name; a name that is not known is of no interest. -/
def ofName (s : String) : CursorKind := (named.find? (·.name == s)).getD other

/-- Whether a cursor of the kind takes arguments even where none are listed. -/
def isCallable : CursorKind → Bool
  | instanceMethodDeclaration | classMethodDeclaration | functionDeclaration => true
  | _ => false

/-- A kind as a document. -/
def toJson (k : CursorKind) : Json := .string k.name

/-- Reads a kind. -/
def read : Json.Reader CursorKind := .variant fun s => .ok (ofName s)

/-- A kind is found again by its name. -/
theorem ofName_name (k : CursorKind) : ofName k.name = k := by
  cases k <;> rfl

end CursorKind

/-! ## Null -/

/-- How a type treats null. -/
inductive Nullability where
  | nonNull
  | nullable
  | unspecified
  | invalid
  | nullableResult
deriving DecidableEq, Repr

namespace Nullability

/-- The name in documents. -/
def name : Nullability → String
  | nonNull => "NON_NULL"
  | nullable => "NULLABLE"
  | unspecified => "UNSPECIFIED"
  | invalid => "INVALID"
  | nullableResult => "NULLABLE_RESULT"

/-- All of them, in the order of their codes. -/
def all : List Nullability := [nonNull, nullable, unspecified, invalid, nullableResult]

/-- The number that stands for it. -/
def code (n : Nullability) : Nat := all.idxOf n

/-- The one of a name. -/
def ofName? (s : String) : Option Nullability := all.find? (·.name == s)

/-- As a document. -/
def toJson (n : Nullability) : Json := .string n.name

/-- Reads one; only the known names are accepted. -/
def read : Json.Reader Nullability :=
  .variant fun s =>
    match ofName? s with
    | some n => .ok n
    | none => .error (.unknownVariant s (all.map name))

/-- Each is found again by its name. -/
theorem ofName?_name (n : Nullability) : ofName? n.name = some n := by
  cases n <;> rfl

end Nullability

/-! ## Properties -/

/-- An attribute of a property. -/
inductive PropertyFlag where
  | readonly
  | getter
  | assign
  | readwrite
  | retain
  | copy
  | nonatomic
  | setter
  | atomic
  | weak
  | strong
  | unsafeUnretained
  | classLevel
deriving DecidableEq, Repr

namespace PropertyFlag

/-- All attributes, from the lowest bit on. -/
def all : List PropertyFlag := [readonly, getter, assign, readwrite, retain, copy, nonatomic, setter, atomic, weak,
  strong, unsafeUnretained, classLevel]

/-- The name of an attribute. -/
def name : PropertyFlag → String
  | readonly => "READONLY"
  | getter => "GETTER"
  | assign => "ASSIGN"
  | readwrite => "READWRITE"
  | retain => "RETAIN"
  | copy => "COPY"
  | nonatomic => "NONATOMIC"
  | setter => "SETTER"
  | atomic => "ATOMIC"
  | weak => "WEAK"
  | strong => "STRONG"
  | unsafeUnretained => "UNSAFE_UNRETAINED"
  | classLevel => "CLASS"

/-- The bit of an attribute. -/
def mask (f : PropertyFlag) : UInt32 := UInt32.ofNat (1 <<< all.idxOf f)

/-- Whether an attribute is among the given bits. -/
def isIn (f : PropertyFlag) (bits : UInt32) : Bool := bits &&& f.mask != 0

end PropertyFlag

end HeaderCatalog
