/-!
# Documents

Structured data as configuration files hold it.
-/

namespace ProcessAccounting

/-- A piece of structured data. -/
inductive Document where
  | null
  | flag (value : Bool)
  /-- A number written with digits alone and at most a minus sign. -/
  | integer (value : Int)
  /-- A number written with a fraction or an exponent, as it is written. -/
  | decimal (written : String)
  | text (value : String)
  | list (items : List Document)
  | record (fields : List (String × Document))

end ProcessAccounting
