/-
**HTTP requests.**

* `Http.Method` — a method is known by its name.
* `Http.Content` — what a request carries, and of which type it is.
* `Http.Request` — a request to a URL, with the values of its authorization headers in order.
-/

import LogProbe.Json.Value
import LogProbe.Url.Basic

namespace LogProbe.Http

/-- A method. -/
structure Method where
  name : String
deriving DecidableEq

namespace Method

/-- The method that reads. -/
def get : Method := ⟨"GET"⟩

/-- The method that adds. -/
def post : Method := ⟨"POST"⟩

/-- The method that changes. -/
def put : Method := ⟨"PUT"⟩

/-- The method that removes. -/
def delete : Method := ⟨"DELETE"⟩

end Method

/-- What a request carries. -/
structure Content where
  type : String
  text : String
deriving DecidableEq

/-- A value of JSON as content. -/
def Content.json (value : Json.Value) : Content := ⟨"application/json", value.text⟩

/-- A request. -/
structure Request where
  method : Method
  url : Url
  authorization : List String
  content : Option Content
deriving DecidableEq

end LogProbe.Http
