import Criteria.Model.Schema
import Criteria.Number.Reader
import Criteria.Predicate.Evaluation

/-! A small school: students, their communities, and records of both to search in. -/

namespace Criteria.School

/-- The identity of the student type. -/
def studentId : EntityId := ⟨"Student", 0⟩

/-- The identity of the community type. -/
def communityId : EntityId := ⟨"Community", 0⟩

/-- The student type, each student belonging to at most one community. -/
def studentEntity : Entity where
  id := studentId
  fields :=
    [ ⟨"id", .long, false⟩,
      ⟨"firstName", .text, false⟩,
      ⟨"lastName", .text, false⟩,
      ⟨"email", .text, false⟩,
      ⟨"phoneNumber", .text, true⟩,
      ⟨"address", .text, true⟩,
      ⟨"additionalInfo", .text, true⟩,
      ⟨"gpa", .double, false⟩,
      ⟨"gpaLetter", .text, false⟩,
      ⟨"isFullTime", .bool, false⟩,
      ⟨"credits", .int, false⟩,
      ⟨"dateOfBirth", .date, true⟩,
      ⟨"enrollmentDate", .date, true⟩,
      ⟨"lastLogin", .dateTime, true⟩,
      ⟨"updatedAt", .offsetDateTime, true⟩,
      ⟨"avatar", .other "Blob", true⟩,
      ⟨"community", .relation communityId, true⟩ ]

/-- The community type, which leads back to its students. -/
def communityEntity : Entity where
  id := communityId
  fields :=
    [ ⟨"id", .long, false⟩,
      ⟨"className", .text, false⟩,
      ⟨"students", .collection studentId, false⟩ ]

/-- The schema of the school. -/
def schema : Schema := ⟨[studentEntity, communityEntity]⟩

/-- The model whose paths begin at a student. -/
def student : EntityModel := ⟨schema, studentId⟩

/-- The model whose paths begin at a community. -/
def community : EntityModel := ⟨schema, communityId⟩

/-- A community record. -/
structure CommunityRecord where
  id : Int64
  className : String
deriving DecidableEq

/-- The values of a community record, which leads no further. -/
def CommunityRecord.row (record : CommunityRecord) : Row := fun path =>
  match path.segments with
  | ["id"] => .int record.id
  | ["className"] => .text record.className
  | _ => .null

/-- A student record. -/
structure StudentRecord where
  id : Nat
  firstName : String
  lastName : String
  gpa : Double
  gpaLetter : String
  isFullTime : Bool
  community : Option CommunityRecord
  born : Option Day

namespace StudentRecord

/-- The value of a text that may be absent. -/
def optionalText : Option String → Value
  | some content => .text content
  | none => .null

/-- The value of a day that may be absent or no date. -/
def optionalDay (day : Option Day) : Value :=
  match day.bind Date.ofDay? with
  | some date => .date date
  | none => .null

/-- An integer value that fits 64 bits. -/
def integer (number : Nat) : Value :=
  .int (Int64.ofNat number)

/-- The address of the school's mail for a name. -/
def email (record : StudentRecord) : String :=
  String.ofList <| record.firstName.toList.map Char.toLower
    ++ '.' :: record.lastName.toList.map Char.toLower ++ "@school.edu".toList

/-- The telephone number, which three of four students have. -/
def phoneNumber (record : StudentRecord) : Option String :=
  if record.id % 4 = 0 then none
  else some ("+962-7-5550-" ++ String.ofList (Numeral.padded 4 record.id))

/-- The first of September in the year of the eighteenth birthday. -/
def enrolled (record : StudentRecord) : Option Day :=
  record.born.map fun day => ⟨day.year + 18, 9, 1⟩

/-- Half past eight on the day of enrollment, for every other student. -/
def lastLogin (record : StudentRecord) : Value :=
  if record.id % 2 = 0 then
    match record.enrolled.bind Date.ofDay?, TimeOfDay.ofClock? 8 30 0 0 with
    | some date, some time => .dateTime ⟨date, time⟩
    | _, _ => .null
  else .null

/-- Ten in the morning of a day in January, three hours east, for the first ten students. -/
def updatedAt (record : StudentRecord) : Value :=
  if record.id ≤ 10 then
    match Date.ofDay? ⟨2024, 1, 15⟩, TimeOfDay.ofClock? 10 0 0 0, Offset.of? 10800 with
    | some date, some time, some offset =>
      match OffsetDateTime.ofLocal? ⟨date, time⟩ offset with
      | some moment => .offsetDateTime moment
      | none => .null
    | _, _, _ => .null
  else .null

/-- The value of an attribute of the student itself. -/
def field (record : StudentRecord) (name : String) : Value :=
  match name with
  | "id" => integer record.id
  | "firstName" => .text record.firstName
  | "lastName" => .text record.lastName
  | "email" => .text record.email
  | "phoneNumber" => optionalText record.phoneNumber
  | "address" => optionalText (if record.id % 3 = 0 then some "Amman" else none)
  | "additionalInfo" => optionalText (if record.id = 7 then some "transfer student" else none)
  | "gpa" => .float record.gpa
  | "gpaLetter" => .text record.gpaLetter
  | "isFullTime" => .bool record.isFullTime
  | "credits" => integer (record.id * 3)
  | "dateOfBirth" => optionalDay record.born
  | "enrollmentDate" => optionalDay record.enrolled
  | "lastLogin" => record.lastLogin
  | "updatedAt" => record.updatedAt
  | "community" =>
    match record.community with
    | some community => .int community.id
    | none => .null
  | _ => .null

/-- The values of a student record, through its community too. -/
def row (record : StudentRecord) : Row := fun path =>
  match path.segments with
  | [name] => record.field name
  | "community" :: rest =>
    match record.community with
    | some community => community.row ⟨rest⟩
    | none => .null
  | _ => .null

end StudentRecord

/-- The communities, in order. -/
def communities : List CommunityRecord :=
  [⟨1, "Class 9A"⟩, ⟨2, "Class 10B"⟩, ⟨3, "Class 9C"⟩, ⟨5, "Class 11A"⟩]

/-- A grade point average given in hundredths. -/
def hundredths (points : Nat) : Double :=
  Decimal.toDouble ⟨false, points, -2⟩

/-- The community with a number. -/
def communityOf (number : Option Int64) : Option CommunityRecord :=
  number.bind fun id => communities.find? fun community => community.id = id

/-- The students, in order. -/
def students : List StudentRecord :=
  [ ⟨1, "Aya", "Refai", hundredths 390, "A", true, communityOf (some 1), some ⟨2001, 3, 14⟩⟩,
    ⟨2, "Omar", "Haddad", hundredths 320, "B+", true, communityOf (some 1), some ⟨2000, 11, 2⟩⟩,
    ⟨3, "Lina", "Saleh", hundredths 360, "A-", true, communityOf (some 2), some ⟨2002, 1, 23⟩⟩,
    ⟨4, "Sami", "Khoury", hundredths 280, "B-", true, communityOf (some 5), some ⟨1999, 8, 30⟩⟩,
    ⟨5, "Rana", "Nasser", hundredths 395, "A+", true, communityOf (some 5), some ⟨2001, 6, 5⟩⟩,
    ⟨6, "Yousef", "Amin", hundredths 320, "B+", true, communityOf (some 3), some ⟨2000, 2, 17⟩⟩,
    ⟨7, "Hala", "Mansour", hundredths 375, "A-", true, communityOf none, some ⟨1997, 5, 7⟩⟩,
    ⟨8, "Karim", "Fares", hundredths 300, "B", true, communityOf (some 2), some ⟨2001, 12, 9⟩⟩,
    ⟨9, "Dana", "Issa", hundredths 385, "A", true, communityOf (some 3), some ⟨2002, 4, 11⟩⟩,
    ⟨10, "Tariq", "Zaid", hundredths 250, "C+", false, communityOf (some 5), some ⟨1998, 10, 21⟩⟩,
    ⟨11, "Maya", "Jaber", hundredths 340, "B+", true, communityOf (some 1), some ⟨2001, 7, 28⟩⟩,
    ⟨12, "Ziad", "Hamdan", hundredths 370, "A-", true, communityOf (some 2), some ⟨2000, 9, 3⟩⟩,
    ⟨13, "Nour", "Khalil", hundredths 395, "A", true, communityOf none, some ⟨2002, 2, 14⟩⟩,
    ⟨14, "Fadi", "Sabbagh", hundredths 310, "B", true, communityOf (some 3), some ⟨1999, 12, 25⟩⟩,
    ⟨15, "Salma", "Odeh", hundredths 390, "A", true, communityOf (some 5), some ⟨2001, 1, 19⟩⟩,
    ⟨16, "Bilal", "Qasem", hundredths 290, "B-", false, communityOf none, none⟩,
    ⟨17, "Reem", "Awad", hundredths 380, "A", true, communityOf (some 1), some ⟨2000, 6, 30⟩⟩,
    ⟨18, "Hadi", "Musa", hundredths 365, "A-", true, communityOf (some 2), some ⟨2002, 8, 8⟩⟩,
    ⟨19, "Jana", "Tamimi", hundredths 400, "A+", true, communityOf (some 3), some ⟨2001, 5, 16⟩⟩,
    ⟨20, "Adam", "Yasin", hundredths 330, "B+", true, communityOf (some 1), some ⟨2000, 3, 1⟩⟩ ]

end Criteria.School
