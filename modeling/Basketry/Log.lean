import Basketry.Fault

namespace Basketry.Log

inductive Level where
  | trace
  | debug
  | info
  | success
  | warning
  | error
  | critical
deriving DecidableEq, Repr

namespace Level

def all : List Level := [trace, debug, info, success, warning, error, critical]

def name : Level → String
  | trace => "TRACE"
  | debug => "DEBUG"
  | info => "INFO"
  | success => "SUCCESS"
  | warning => "WARNING"
  | error => "ERROR"
  | critical => "CRITICAL"

/-- How grave a level is. -/
def severity : Level → Int
  | trace => 5
  | debug => 10
  | info => 20
  | success => 25
  | warning => 30
  | error => 40
  | critical => 50

/-- Names are told apart by letter case. -/
def ofName? (s : String) : Option Level := all.find? (·.name == s)

end Level

/-- A line about a failure ends in what caused it. -/
structure Line where
  level : Level
  text : String
  cause : Option Fault := none
deriving DecidableEq, Repr

end Basketry.Log
