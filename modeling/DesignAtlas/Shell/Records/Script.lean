import DesignAtlas.Regex.Basic
import DesignAtlas.Shell.ByteText

/-!
# Scripts for records

A script says what is done with the records of a text: for each pattern that a record has, an action
is carried out. Actions work on fields, variables and tables.

* `Expr` and `Statement` are what actions consist of.
* `Script` is a script as a whole.
-/

namespace DesignAtlas.Shell.Records

/-- A variable, by its number among all variables or among those of a function. -/
inductive VariableRef where
  /-- A variable that everything shares. -/
  | shared (number : Nat)
  /-- A variable of the function that is carried out. -/
  | own (number : Nat)
  deriving DecidableEq, Repr

/-- How two numbers are combined. -/
inductive Operator where
  /-- Their sum. -/
  | add
  /-- Their difference. -/
  | subtract
  /-- Their product. -/
  | multiply
  /-- Their quotient. -/
  | divide
  /-- The remainder. -/
  | remainder
  /-- A power. -/
  | power
  deriving DecidableEq, Repr

/-- How two values are compared. -/
inductive Relation where
  /-- The first one is less. -/
  | less
  /-- The first one is not greater. -/
  | atMost
  /-- They are equal. -/
  | equal
  /-- They are different. -/
  | different
  /-- The first one is greater. -/
  | greater
  /-- The first one is not less. -/
  | atLeast
  deriving DecidableEq, Repr

/-- A function that every script can call. -/
inductive KnownFunction where
  /-- The length of a text. -/
  | length
  /-- A part of a text. -/
  | substr
  /-- The place of a text in another one. -/
  | index
  /-- The parts of a text between separators. -/
  | split
  /-- The first part of a text that has a form is replaced. -/
  | sub
  /-- All parts of a text that have a form are replaced. -/
  | gsub
  /-- The place of a part that has a form. -/
  | place
  /-- A format that is filled in. -/
  | sprintf
  /-- A sine. -/
  | sin
  /-- A cosine. -/
  | cos
  /-- The angle of a point. -/
  | atan2
  /-- An exponential. -/
  | exp
  /-- A logarithm. -/
  | log
  /-- A square root. -/
  | sqrt
  /-- A number without what stands behind its point. -/
  | int
  /-- A number at random. -/
  | rand
  /-- The start of the numbers at random. -/
  | srand
  /-- A text in small letters. -/
  | tolower
  /-- A text in capital letters. -/
  | toupper
  /-- A command is carried out. -/
  | system
  /-- A file or command is closed. -/
  | close
  /-- What waits to be written is written. -/
  | fflush
  /-- The time. -/
  | systime
  deriving DecidableEq, Repr

/-- An expression. -/
inductive Expr where
  /-- A number. -/
  | number (x : Float)
  /-- A text. -/
  | text (t : ByteText)
  /-- A form, which stands for whether the record has it. -/
  | form (r : Regex)
  /-- A variable. -/
  | variable (v : VariableRef)
  /-- A field. -/
  | field (n : Expr)
  /-- An entry of a table. -/
  | element (v : VariableRef) (keys : List Expr)
  /-- A value is put into a place. -/
  | assign (place value : Expr)
  /-- A place is changed by a number. -/
  | update (op : Operator) (place value : Expr)
  /-- A place is changed by one. The value is the new one or the old one. -/
  | count (givesNew isUp : Bool) (place : Expr)
  /-- One of two values. -/
  | choice (c a b : Expr)
  /-- Whether both hold. -/
  | both (a b : Expr)
  /-- Whether one holds. -/
  | either (a b : Expr)
  /-- Whether something does not hold. -/
  | isNot (a : Expr)
  /-- Whether a relation holds. -/
  | compare (r : Relation) (a b : Expr)
  /-- Whether a text has a form. -/
  | fits (a b : Expr)
  /-- Whether a key is in a table. -/
  | within (keys : List Expr) (v : VariableRef)
  /-- Two numbers are combined. -/
  | compute (op : Operator) (a b : Expr)
  /-- The number with the other sign. -/
  | negate (a : Expr)
  /-- The number itself. -/
  | plus (a : Expr)
  /-- Two texts one behind the other. -/
  | joined (a b : Expr)
  /-- An expression in brackets. -/
  | group (a : Expr)
  /-- Several expressions in brackets. -/
  | several (items : List Expr)
  /-- A function of the script is called. -/
  | call (function : Nat) (arguments : List Expr)
  /-- A function that every script can call. -/
  | known (function : KnownFunction) (arguments : List Expr)
  /-- The next record is read, as the record or into a place. -/
  | nextRecord (place : List Expr)
  /-- The next record of a file is read. -/
  | nextOfFile (place : List Expr) (file : Expr)
  /-- The next record of what a command writes is read. -/
  | nextOfCommand (place : List Expr) (command : Expr)

/-- Where output goes. -/
inductive Outlet where
  /-- To the output. -/
  | standard
  /-- To a file that is replaced. -/
  | file
  /-- To the end of a file. -/
  | fileEnd
  /-- To a command. -/
  | command
  deriving DecidableEq, Repr

/-- A statement. -/
inductive Statement where
  /-- An expression is worked out. -/
  | expression (e : Expr)
  /-- Values are written. -/
  | print (items : List Expr) (outlet : Outlet) (target : Expr)
  /-- A format is filled in and written. -/
  | printf (items : List Expr) (outlet : Outlet) (target : Expr)
  /-- One of two statements is carried out. -/
  | choice (c : Expr) (a b : Statement)
  /-- A statement is repeated as long as something holds. -/
  | whileDo (c : Expr) (body : Statement)
  /-- A statement is carried out and repeated as long as something holds. -/
  | doWhile (body : Statement) (c : Expr)
  /-- A statement is repeated, with a start and a step. -/
  | forDo (start : Statement) (c : Expr) (step body : Statement)
  /-- A statement is carried out for every key of a table. -/
  | forKeys (key : VariableRef) (table : VariableRef) (body : Statement)
  /-- Statements one after the other. -/
  | block (items : List Statement)
  /-- The work on the record ends. -/
  | next
  /-- The work on the file ends. -/
  | nextFile
  /-- The script ends. -/
  | exit (status : List Expr)
  /-- The function ends. -/
  | returnWith (value : List Expr)
  /-- The loop ends. -/
  | breakOut
  /-- The loop goes on with its next round. -/
  | goOn
  /-- A key is taken out of a table. -/
  | delete (v : VariableRef) (keys : List Expr)
  /-- All keys are taken out of a table. -/
  | deleteAll (v : VariableRef)

/-- Which records a rule is about. -/
inductive RecordPattern where
  /-- All of them. -/
  | every
  /-- Those for which an expression holds. -/
  | holds (e : Expr)
  /-- Those from one for which an expression holds to one for which another one holds. -/
  | range (first last : Expr)

/-- What is done with some records. -/
structure Rule where
  /-- Which records. -/
  pattern : RecordPattern
  /-- What is done. -/
  action : Statement

/-- A function of a script. -/
structure ScriptFunction where
  /-- The name. -/
  name : String
  /-- The number of its variables. -/
  variableCount : Nat
  /-- What it does. -/
  body : Statement

/-- A script. -/
structure Script where
  /-- What is done before the first record. -/
  start : List Statement
  /-- What is done with the records. -/
  rules : List Rule
  /-- What is done behind the last record. -/
  finish : List Statement
  /-- The functions. -/
  functions : Array ScriptFunction
  /-- The names of the variables that everything shares. -/
  names : Array String

/-- The variables that mean something to every script. -/
def knownNames : Array String :=
  #["NR", "NF", "FNR", "FS", "OFS", "ORS", "RS", "FILENAME", "SUBSEP", "RSTART", "RLENGTH",
    "CONVFMT", "OFMT", "ENVIRON", "ARGC", "ARGV"]

end DesignAtlas.Shell.Records
