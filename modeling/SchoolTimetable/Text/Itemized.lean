/-!
A heading with a list under it.
-/

namespace SchoolTimetable

def itemized (heading : String) (items : List String) : String :=
  heading ++ ":\n" ++ "\n".intercalate (items.map fun item => "  - " ++ item)

end SchoolTimetable
