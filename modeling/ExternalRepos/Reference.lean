/-!
# References

Objects that change while an evaluation runs are addressed by reference: the
identifier under which the object was created, and how many objects had been
created under it before. An object keeps its reference when another one takes
its identifier, so a context can go on using a registry that has been replaced.
-/

namespace ExternalRepos

/-- The address of an object. -/
structure Reference where
  id : String
  generation : Nat
  deriving DecidableEq, Inhabited

end ExternalRepos
