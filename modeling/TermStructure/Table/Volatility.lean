import TermStructure.Table.Builder

/-!
# Volatility tables

The volatility of the short rate in a one-factor model, as a term structure.
-/

namespace TermStructure

/-- A term structure of volatilities. -/
structure VolatilityTable where
  table : Table Float

namespace VolatilityTable

def ofTable (t : Table Float) : VolatilityTable := ⟨t⟩

/-- The table of some volatilities on intervals, in any order. -/
def ofEntries (es : List (Entry Float)) : Except StructureError VolatilityTable :=
  (Table.ofEntries es).map ofTable

/-- The table of some volatilities between tenors, in any order. -/
def ofSegments (segments : List (Segment Float)) : Except StructureError VolatilityTable :=
  (segments.foldl (fun b s => b.push s.start s.stop s.value) Builder.empty).build.map ofTable

def volatilityAt (v : VolatilityTable) (tenor : Tenor) : Option Float :=
  v.table.lookup tenor

end VolatilityTable

end TermStructure
