import GameShelf.Filter.Predicate
import GameShelf.SortOrder

namespace GameShelf

/-- The games to start from and the clauses accepted so far. Each view is worked out anew from both,
so it depends on nothing else. -/
structure Planner where
  games : List Game
  clauses : List Clause
deriving DecidableEq

/-- A view, and why each dropped clause of the expression was dropped. -/
structure Planner.Report where
  games : List Game
  rejected : List ClauseError

namespace Planner

def ofGames (games : List Game) : Planner :=
  ⟨games, []⟩

/-- Whether a game passes every clause. -/
def admits (planner : Planner) (game : Game) : Bool :=
  planner.clauses.all (·.predicate.accepts game)

/-- The games that pass, in the given order. -/
def view (planner : Planner) (order : SortOrder) : List Game :=
  order.sort (planner.games.filter planner.admits)

def isBlankExpression (expression : String) : Bool :=
  (Text.trimmed expression.toList).isEmpty

def accepted (expression : String) : List Clause :=
  (Clause.parseAll expression).filterMap fun
    | .ok clause => some clause
    | .error _ => none

def rejected (expression : String) : List ClauseError :=
  (Clause.parseAll expression).filterMap fun
    | .ok _ => none
    | .error error => some error

/-- Adds the clauses of an expression that can be read, and reports the others. A blank expression
adds nothing and reports nothing. -/
def addFilters (planner : Planner) (expression : String) : Planner × List ClauseError :=
  if isBlankExpression expression then (planner, [])
  else ({ planner with clauses := planner.clauses ++ accepted expression }, rejected expression)

/-- Adds the clauses of an expression, then shows the view. -/
def filterReport (planner : Planner) (expression : String) (order : SortOrder) : Planner × Report :=
  let (planner, rejected) := planner.addFilters expression
  (planner, ⟨planner.view order, rejected⟩)

def filterWith (planner : Planner) (expression : String) (order : SortOrder) :
    Planner × List Game :=
  let (planner, report) := planner.filterReport expression order
  (planner, report.games)

def filterSorted (planner : Planner) (expression : String) (column : Column) :
    Planner × List Game :=
  planner.filterWith expression ⟨column, true⟩

def filter (planner : Planner) (expression : String) : Planner × List Game :=
  planner.filterWith expression .standard

/-- Drops every clause. -/
def reset (planner : Planner) : Planner :=
  { planner with clauses := [] }

/-- The accumulated clauses as text, oldest first. -/
def activeTexts (planner : Planner) : List String :=
  planner.clauses.map Clause.canonical

end Planner

end GameShelf
