/-!
# Outlines of source files

An outline is what a line scanner extracts from one source file: its package or namespace, its
module path, its imports, and its declarations with their line ranges, counted from 1 and
inclusive. Functions carry their receiver, parameters, return types and doc comment; classes
their fields, methods, base and implemented interfaces; interfaces their methods.
-/

namespace ReviewPrep

/-- An import: a path and, if given, the name it is bound to. -/
structure Import where
  /-- The imported path or module. -/
  path : String
  /-- The local name, or empty. -/
  localName : String := ""
  deriving DecidableEq, Repr, Inhabited

/-- A parameter: its name and type, either possibly empty. -/
structure Param where
  /-- The parameter's name. -/
  name : String := ""
  /-- The parameter's type. -/
  type : String := ""
  deriving DecidableEq, Repr, Inhabited

/-- A function or method definition. -/
structure FunctionDecl where
  /-- The function's name. -/
  name : String
  /-- The first line. -/
  startLine : Nat
  /-- The last line. -/
  endLine : Nat
  /-- The type the method belongs to, or empty. -/
  receiver : String := ""
  /-- The parameters. -/
  params : List Param := []
  /-- The return types. -/
  returns : List String := []
  /-- Whether the function is visible outside its module. -/
  isExported : Bool := false
  /-- The doc comment, joined into one line. -/
  doc : String := ""
  deriving DecidableEq, Repr, Inhabited

/-- A field of a class or struct. -/
structure FieldDecl where
  /-- The field's name. -/
  name : String
  /-- The field's type. -/
  type : String := ""
  /-- The field's tags. -/
  tags : String := ""
  deriving DecidableEq, Repr, Inhabited

/-- A class, struct or impl block. -/
structure ClassDecl where
  /-- The class's name. -/
  name : String
  /-- The first line. -/
  startLine : Nat
  /-- The last line. -/
  endLine : Nat
  /-- The fields. -/
  fields : List FieldDecl := []
  /-- The names of the methods. -/
  methods : List String := []
  /-- The base class, or empty. -/
  base : String := ""
  /-- The implemented interfaces. -/
  implements : List String := []
  /-- Whether the class is visible outside its module. -/
  isExported : Bool := false
  deriving DecidableEq, Repr, Inhabited

/-- An interface or trait. -/
structure InterfaceDecl where
  /-- The interface's name. -/
  name : String
  /-- The first line. -/
  startLine : Nat
  /-- The last line. -/
  endLine : Nat
  /-- The names of the methods. -/
  methods : List String := []
  /-- Whether the interface is visible outside its module. -/
  isExported : Bool := false
  deriving DecidableEq, Repr, Inhabited

/-- A variable or constant declaration. -/
structure VariableDecl where
  /-- The variable's name. -/
  name : String
  /-- The line of the declaration. -/
  line : Nat
  /-- The declared type, or empty. -/
  type : String := ""
  /-- The initial value as written, or empty. -/
  value : String := ""
  /-- Whether the variable is visible outside its module. -/
  isExported : Bool := false
  deriving DecidableEq, Repr, Inhabited

/-- Everything extracted from one source file. -/
structure Outline where
  /-- The language tag the file was read as. -/
  language : String
  /-- The file's path. -/
  filePath : String
  /-- The package or namespace, or empty. -/
  package : String := ""
  /-- The module path, or empty. -/
  module : String := ""
  /-- The imports, in order. -/
  imports : List Import := []
  /-- The functions, in order. -/
  functions : List FunctionDecl := []
  /-- The classes, in order. -/
  classes : List ClassDecl := []
  /-- The interfaces, in order. -/
  interfaces : List InterfaceDecl := []
  /-- The variables, in order. -/
  vars : List VariableDecl := []
  /-- The constants, in order. -/
  constants : List VariableDecl := []
  deriving DecidableEq, Repr, Inhabited

namespace Outline

/-- Appends an import. -/
def addImport (o : Outline) (i : Import) : Outline := { o with imports := o.imports ++ [i] }

/-- Appends a function. -/
def addFunction (o : Outline) (f : FunctionDecl) : Outline := { o with functions := o.functions ++ [f] }

/-- Appends a class. -/
def addClass (o : Outline) (c : ClassDecl) : Outline := { o with classes := o.classes ++ [c] }

/-- Appends an interface. -/
def addInterface (o : Outline) (i : InterfaceDecl) : Outline :=
  { o with interfaces := o.interfaces ++ [i] }

/-- Appends a variable. -/
def addVariable (o : Outline) (v : VariableDecl) : Outline := { o with vars := o.vars ++ [v] }

/-- Appends a constant. -/
def addConstant (o : Outline) (v : VariableDecl) : Outline := { o with constants := o.constants ++ [v] }

/-- Changes the class at position `i`. -/
def modifyClass (o : Outline) (i : Nat) (f : ClassDecl → ClassDecl) : Outline :=
  { o with classes := o.classes.modify i f }

/-- Changes the interface at position `i`. -/
def modifyInterface (o : Outline) (i : Nat) (f : InterfaceDecl → InterfaceDecl) : Outline :=
  { o with interfaces := o.interfaces.modify i f }

end Outline

end ReviewPrep
