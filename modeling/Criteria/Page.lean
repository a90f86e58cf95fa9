/-!
# Pages

A request for a page of the result, and the window of rows it stands for.  Page numbers count
from one.
-/

namespace Criteria

structure PageRequest where
  number : Option Int64 := none
  size : Option Int64 := none
  sort : Option String := none
deriving DecidableEq, Repr

structure Window where
  limit : Int64
  offset : Int64
deriving DecidableEq, Repr

namespace Window

def firstPage : Int64 :=
  1

def standardSize : Int64 :=
  10

def positiveOr (standard n : Int64) : Int64 :=
  if 0 < n then n else standard

/-- The difference; past a bound of the 64-bit numbers it is that bound. -/
def saturatingSub (m n : Int64) : Int64 :=
  .ofIntClamp (m.toInt - n.toInt)

/-- The product; past a bound of the 64-bit numbers it is that bound. -/
def saturatingMul (m n : Int64) : Int64 :=
  .ofIntClamp (m.toInt * n.toInt)

def ofPage (number size : Int64) : Window :=
  let number := positiveOr firstPage number
  let size := positiveOr standardSize size
  ⟨size, saturatingMul (saturatingSub number 1) size⟩

def standard : Window :=
  ofPage firstPage standardSize

def sql (window : Window) : String :=
  " LIMIT " ++ toString window.limit.toInt ++ " OFFSET " ++ toString window.offset.toInt

end Window

namespace PageRequest

def needsPaging (page : PageRequest) : Bool :=
  page.number.isSome || page.size.isSome

def window? (page : PageRequest) : Option Window :=
  if page.needsPaging then
    some (.ofPage (page.number.getD Window.firstPage) (page.size.getD Window.standardSize))
  else
    none

def sql (page : PageRequest) : String :=
  (page.window?.map Window.sql).getD ""

end PageRequest
end Criteria
