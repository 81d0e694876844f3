/-! # Fields of intervals

Which fields an interval has is one number, with a bit for each field.
-/

namespace IndexAdvisor.Sql.IntervalFields

def full : Int := 0x7fff

/-- The fields that an interval may be restricted to, in words and as a number. -/
def ranges : List (String × Int) :=
  [("year", 4), ("month", 2), ("day", 8), ("hour", 1024), ("minute", 2048), ("second", 4096),
   ("year to month", 6), ("day to hour", 1032), ("day to minute", 3080),
   ("day to second", 7176), ("hour to minute", 3072), ("hour to second", 7168),
   ("minute to second", 6144)]

def ofWords (words : String) : Int := (ranges.lookup words).getD full

end IndexAdvisor.Sql.IntervalFields
