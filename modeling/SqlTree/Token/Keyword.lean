/-!
# Keywords

The words of SQL that statements are made of, as opposed to names.
-/

namespace SqlTree

/-- A word of SQL. -/
inductive Keyword where
  | all | and | any | as | asc | between | by | case | cross | current
  | delete | desc | distinct | else | end | except | exists | first
  | following | from | full | group | having | in | inner | insert
  | intersect | into | is | join | last | left | like | minus | not | null
  | nulls | on | or | order | outer | over | partition | percent | preceding
  | range | right | row | rows | select | set | some | then | ties | top
  | unbounded | union | update | values | when | where | with
deriving DecidableEq

/-- The spelling of a keyword. -/
def Keyword.text : Keyword → String
  | .all => "ALL"
  | .and => "AND"
  | .any => "ANY"
  | .as => "AS"
  | .asc => "ASC"
  | .between => "BETWEEN"
  | .by => "BY"
  | .case => "CASE"
  | .cross => "CROSS"
  | .current => "CURRENT"
  | .delete => "DELETE"
  | .desc => "DESC"
  | .distinct => "DISTINCT"
  | .else => "ELSE"
  | .end => "END"
  | .except => "EXCEPT"
  | .exists => "EXISTS"
  | .first => "FIRST"
  | .following => "FOLLOWING"
  | .from => "FROM"
  | .full => "FULL"
  | .group => "GROUP"
  | .having => "HAVING"
  | .in => "IN"
  | .inner => "INNER"
  | .insert => "INSERT"
  | .intersect => "INTERSECT"
  | .into => "INTO"
  | .is => "IS"
  | .join => "JOIN"
  | .last => "LAST"
  | .left => "LEFT"
  | .like => "LIKE"
  | .minus => "MINUS"
  | .not => "NOT"
  | .null => "NULL"
  | .nulls => "NULLS"
  | .on => "ON"
  | .or => "OR"
  | .order => "ORDER"
  | .outer => "OUTER"
  | .over => "OVER"
  | .partition => "PARTITION"
  | .percent => "PERCENT"
  | .preceding => "PRECEDING"
  | .range => "RANGE"
  | .right => "RIGHT"
  | .row => "ROW"
  | .rows => "ROWS"
  | .select => "SELECT"
  | .set => "SET"
  | .some => "SOME"
  | .then => "THEN"
  | .ties => "TIES"
  | .top => "TOP"
  | .unbounded => "UNBOUNDED"
  | .union => "UNION"
  | .update => "UPDATE"
  | .values => "VALUES"
  | .when => "WHEN"
  | .where => "WHERE"
  | .with => "WITH"

/-- All keywords. -/
def Keyword.every : List Keyword :=
  [.all, .and, .any, .as, .asc, .between, .by, .case, .cross, .current,
    .delete, .desc, .distinct, .else, .end, .except, .exists, .first,
    .following, .from, .full, .group, .having, .in, .inner, .insert,
    .intersect, .into, .is, .join, .last, .left, .like, .minus, .not, .null,
    .nulls, .on, .or, .order, .outer, .over, .partition, .percent, .preceding,
    .range, .right, .row, .rows, .select, .set, .some, .then, .ties, .top,
    .unbounded, .union, .update, .values, .when, .where, .with]

/-- No keyword is missing. -/
theorem Keyword.mem_every (word : Keyword) : word ∈ every := by
  cases word <;> decide

end SqlTree
