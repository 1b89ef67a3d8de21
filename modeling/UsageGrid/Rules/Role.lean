import UsageGrid.Text.Blank
import UsageGrid.Text.Letters

/-!
# Roles and columns

A role says which column of the table a value belongs to; a kind of title identifier is a column of
its own. Dimensions bring further columns under names of their choice, except the reserved ones: a
dimension must not take the name of a fixed column in any letter case (`isReserved`).
-/

namespace UsageGrid.Rules

inductive Role where
  | value
  | date
  | title
  | titleId
  | dimension
  | metric
  | organization
deriving Repr, DecidableEq

def Role.name : Role → String
  | .value => "value"
  | .date => "date"
  | .title => "title"
  | .titleId => "title_id"
  | .dimension => "dimension"
  | .metric => "metric"
  | .organization => "organization"

def Role.words : List (String × Role) :=
  [Role.value, .date, .title, .titleId, .dimension, .metric, .organization].map fun r => (r.name, r)

/-- The kinds of title identifiers, in the order of their columns. -/
inductive TitleIdKind where
  | isbn
  | printIssn
  | onlineIssn
  | proprietary
  | doi
  | uri
deriving Repr, DecidableEq

namespace TitleIdKind

def all : List TitleIdKind := [.isbn, .printIssn, .onlineIssn, .proprietary, .doi, .uri]

def name : TitleIdKind → String
  | .isbn => "ISBN"
  | .printIssn => "Print_ISSN"
  | .onlineIssn => "Online_ISSN"
  | .proprietary => "Proprietary"
  | .doi => "DOI"
  | .uri => "URI"

def words : List (String × TitleIdKind) := all.map fun k => (k.name, k)

end TitleIdKind

/-- The columns besides title identifiers and dimensions. -/
def fixedColumns : List String := ["organization", "title", "metric", "date", "value"]

/-- The name of a fixed column or a title identifier, blanks around it and letter case aside. -/
def isReserved (name : String) : Bool :=
  (fixedColumns ++ TitleIdKind.all.map TitleIdKind.name).any
    (Text.sameIgnoringCase · (Text.trim name))

end UsageGrid.Rules
