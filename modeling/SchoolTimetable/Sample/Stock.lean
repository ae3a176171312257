import SchoolTimetable.Calendar

/-!
The stock that sample schools are made from: names of teachers and subjects with their weekly hours.
-/

namespace SchoolTimetable.Sample

def firstNames : List String :=
  ["James", "John", "Robert", "Michael", "David", "William", "Richard", "Joseph", "Thomas",
    "Christopher", "Sarah", "Jessica", "Emily", "Ashley", "Amanda", "Elizabeth", "Jennifer", "Rachel",
    "Laura", "Nicole", "Emma", "Olivia", "Sophia", "Isabella", "Charlotte", "Daniel", "Matthew",
    "Andrew", "Joshua", "Alexander", "Benjamin", "Samuel", "Henry", "Sebastian", "Oliver", "Grace",
    "Hannah", "Abigail", "Natalie", "Victoria", "Lucy", "Sophie", "Mia", "Lily"]

def lastNames : List String :=
  ["Smith", "Johnson", "Williams", "Brown", "Jones", "Garcia", "Miller", "Davis", "Rodriguez",
    "Martinez", "Hernandez", "Lopez", "Gonzalez", "Wilson", "Anderson", "Thomas", "Taylor", "Moore",
    "Jackson", "Martin", "Lee", "Perez", "Thompson", "White", "Harris", "Sanchez", "Clark", "Ramirez",
    "Lewis", "Robinson", "Walker", "Young", "Allen", "King", "Wright", "Scott", "Torres", "Nguyen",
    "Hill", "Flores", "Green", "Adams", "Nelson", "Baker", "Hall", "Rivera", "Campbell", "Mitchell"]

def teacherHours : List Int := [20, 24, 26, 28]

/-- A subject with the hours a class has of it each week, and the room that is kept for it. -/
structure StockSubject where
  id : String
  name : String
  abbreviation : String
  weeklyHours : Int
  room : Option String
  pattern : WeekPattern
deriving DecidableEq, Repr

def coreSubjects : List StockSubject :=
  [⟨"eng", "English", "EN", 4, none, .every⟩,
    ⟨"mat", "Mathematics", "MA", 4, none, .every⟩,
    ⟨"ger", "German", "DE", 3, none, .every⟩,
    ⟨"bio", "Biology", "BIO", 2, some "Science Lab", .every⟩,
    ⟨"his", "History", "GE", 2, none, .every⟩]

def specialistSubjects : List StockSubject :=
  [⟨"pe", "Physical Education", "SP", 2, some "Gymnasium", .every⟩,
    ⟨"art", "Art", "KU", 1, some "Art Studio", .a⟩,
    ⟨"mus", "Music", "MU", 1, some "Music Room", .b⟩,
    ⟨"cmp", "Computing", "INF", 1, some "Computer Suite", .every⟩,
    ⟨"fre", "French", "FR", 2, none, .every⟩,
    ⟨"geo", "Geography", "EK", 1, none, .every⟩,
    ⟨"rel", "Religious Studies", "RE", 1, none, .every⟩]

end SchoolTimetable.Sample
