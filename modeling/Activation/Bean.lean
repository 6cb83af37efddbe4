/-!
# Beans

A bean has a name, the types it can be used as, and the annotations it carries.
One of several beans of a type may be marked as the primary one.
-/

namespace Activation

/-- The name of a bean. -/
abbrev BeanName := String

/-- A bean as the conditions see it. -/
structure Bean where
  /-- The name, which is unique within a scope. -/
  name : BeanName
  /-- The types it can be used as. -/
  types : List String := []
  /-- The annotations it carries. -/
  annotations : List String := []
  /-- Whether it is preferred over other beans of its types. -/
  primary : Bool := false
  deriving DecidableEq, Repr

namespace Bean

/-- A bean with a further type. -/
def withType (bean : Bean) (type : String) : Bean :=
  { bean with types := bean.types ++ [type] }

/-- A bean with a further annotation. -/
def withAnnotation (bean : Bean) (mark : String) : Bean :=
  { bean with annotations := bean.annotations ++ [mark] }

/-- A bean marked as the primary one. -/
def asPrimary (bean : Bean) : Bean :=
  { bean with primary := true }

/-- Whether a bean can be used as a type. -/
def hasType (bean : Bean) (type : String) : Bool :=
  bean.types.contains type

/-- Whether a bean carries an annotation. -/
def isMarked (bean : Bean) (mark : String) : Bool :=
  bean.annotations.contains mark

end Bean
end Activation
