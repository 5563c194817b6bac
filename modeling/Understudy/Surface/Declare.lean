import Understudy.Surface.Basic

/-!
# Declaring members

The usual ways to declare a parameter and a member.
-/

namespace Understudy

namespace Param

/-- A parameter that has to be given, by position or by name. -/
def required (name : String) (ty : Ty) : Param := ⟨name, some ty, none, .positional⟩

/-- A parameter that has to be given and accepts everything. -/
def untyped (name : String) : Param := ⟨name, none, none, .positional⟩

/-- A parameter that may be left out. -/
def optional (name : String) (ty : Ty) (default : Value) : Param :=
  ⟨name, some ty, some default, .positional⟩

/-- A parameter that has to be given by name. -/
def keyword (name : String) (ty : Ty) : Param := ⟨name, some ty, none, .keyword⟩

/-- A parameter that may be given by name. -/
def keywordOptional (name : String) (ty : Ty) (default : Value) : Param :=
  ⟨name, some ty, some default, .keyword⟩

/-- The parameter that takes the left-over arguments by position, each of the declared type. -/
def restPositional (name : String) (ty : Ty) : Param := ⟨name, some ty, none, .restPositional⟩

/-- The parameter that takes the left-over arguments by name, each of the declared type. -/
def restKeyword (name : String) (ty : Ty) : Param := ⟨name, some ty, none, .restKeyword⟩

end Param

namespace Member

/-- A method. -/
def method (name : String) (params : List Param) (result : Option Ty) : Member :=
  ⟨name, .method, params, result⟩

/-- A part of the data that is invoked. -/
def callable (name : String) (params : List Param) (result : Option Ty) : Member :=
  ⟨name, .callable, params, result⟩

/-- A property. -/
def property (name : String) (ty : Ty) : Member := ⟨name, .property, [], some ty⟩

/-- A field. -/
def field (name : String) (ty : Ty) : Member := ⟨name, .field, [], some ty⟩

end Member

end Understudy
