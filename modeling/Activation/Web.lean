import Activation.Symbol
import Activation.Text.Letters

/-!
# Web applications

Which web stack an application runs on is deduced from the symbols of its build.
It is reactive if the reactive dispatcher is there and neither servlet stack is,
and otherwise a servlet application if every servlet indicator is there.

A unit may need a certain web stack, or any.  The need is asked in two ways: in
full, of the stack that was deduced; and beforehand, where it only matters
whether the classes of the stack are there at all.
-/

namespace Activation

/-- The web stack of an application. -/
inductive WebStack where
  /-- The application is no web application. -/
  | absent
  /-- A servlet application. -/
  | servlet
  /-- A reactive application. -/
  | reactive
  deriving DecidableEq, Repr

namespace WebStack

/-- The symbols that a servlet application needs. -/
def servletIndicators : List Symbol :=
  ["javax.servlet.Servlet", "org.springframework.web.context.ConfigurableWebApplicationContext"]

/-- The dispatcher of the first servlet stack. -/
def dispatcherServlet : Symbol := "org.springframework.web.servlet.DispatcherServlet"

/-- The container of the second servlet stack. -/
def servletContainer : Symbol := "org.glassfish.jersey.servlet.ServletContainer"

/-- The dispatcher of the reactive stack. -/
def dispatcherHandler : Symbol := "org.springframework.web.reactive.DispatcherHandler"

/-- Every web stack. -/
def all : List WebStack := [absent, servlet, reactive]

/-- The word for a web stack. -/
def word : WebStack → String
  | absent => "none"
  | servlet => "servlet"
  | reactive => "reactive"

/-- The web stack that the symbols of a build make. -/
def deduce (oracle : Oracle) : WebStack :=
  if oracle dispatcherHandler && !oracle dispatcherServlet && !oracle servletContainer then
    reactive
  else if servletIndicators.all oracle then servlet
  else absent

end WebStack

/-- An application, as far as conditions ask for it as a whole. -/
structure Application where
  /-- Which symbols are there. -/
  oracle : Oracle
  /-- The web stack that it runs on. -/
  stack : WebStack

/-- The application that the symbols of a build make. -/
def Application.ofOracle (oracle : Oracle) : Application :=
  ⟨oracle, .deduce oracle⟩

instance : Coe Oracle Application := ⟨.ofOracle⟩

/-- The web stack that a unit needs. -/
inductive WebNeed where
  /-- One or the other. -/
  | any
  /-- The servlet stack. -/
  | servlet
  /-- The reactive stack. -/
  | reactive
  deriving DecidableEq, Repr

namespace WebNeed

/-- The symbol whose presence makes a servlet application possible. -/
def servletSymbol : Symbol :=
  "org.springframework.web.context.support.GenericWebApplicationContext"

/-- The symbol whose presence makes a reactive application possible. -/
def reactiveSymbol : Symbol := "org.springframework.web.reactive.HandlerResult"

/-- Every need. -/
def all : List WebNeed := [any, servlet, reactive]

/-- The word for a need. -/
def word : WebNeed → String
  | any => "any"
  | servlet => "servlet"
  | reactive => "reactive"

/-- The need with a given word, spelled exactly. -/
def ofWord? (word : String) : Option WebNeed :=
  all.find? (·.word == word)

/-- The need that an entry of the metadata index states: one of the two stacks by
name, blanks and letter case aside, or nothing for any. -/
def read? (value : String) : Option WebNeed :=
  let text := Text.trim value
  if text.isEmpty then some any
  else if Text.sameLetters text "SERVLET" then some servlet
  else if Text.sameLetters text "REACTIVE" then some reactive
  else none

/-- Whether a web stack meets a need. -/
def isMetBy : WebNeed → WebStack → Bool
  | any, stack => stack != .absent
  | servlet, stack => stack == .servlet
  | reactive, stack => stack == .reactive

/-- The outcome of a need for the web stack of an application. -/
def evaluate (need : WebNeed) (stack : WebStack) : Outcome :=
  if need.isMetBy stack then
    .pass .onWebApplication
      (.about .onWebApplication (.reason ("found " ++ stack.word ++ " web application")))
  else
    .fail .onWebApplication (.about .onWebApplication (.reason
      ("requires " ++ need.word ++ " web application but the application type is " ++ stack.word)))

/-- What the classes that a need asks for are called. -/
def classes : WebNeed → String
  | any => "reactive or servlet web application classes"
  | servlet => "servlet web application classes"
  | reactive => "reactive web application classes"

/-- Whether the classes that a need asks for are there. -/
def isPossible (oracle : Oracle) : WebNeed → Bool
  | any => oracle servletSymbol || oracle reactiveSymbol
  | servlet => oracle servletSymbol
  | reactive => oracle reactiveSymbol

/-- The outcome against a need whose classes are not there; none if they are. -/
def unavailable? (need : WebNeed) (oracle : Oracle) : Option Outcome :=
  if need.isPossible oracle then none
  else some (.fail .onWebApplication (.about .onWebApplication (.foundNone need.classes)))

@[simp] theorem ofWord?_word (need : WebNeed) : ofWord? need.word = some need := by
  cases need <;> decide

end WebNeed
end Activation
