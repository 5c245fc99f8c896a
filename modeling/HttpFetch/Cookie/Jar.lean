import HttpFetch.Cookie.SetCookie

/-!
# Cookie jars

A jar holds cookies by domain, path and name, each level in the order in which its keys were first
set; so a cookie that replaces another takes its place. Expired cookies are purged before cookies
are selected; the levels above them stay.
-/

namespace HttpFetch

set_option synthInstance.maxSize 2000 in
/-- Cookies by domain, path and name. -/
structure Jar where
  domains : OrderedMap Text (OrderedMap Text (OrderedMap Text Cookie))
  deriving DecidableEq, Repr

namespace Jar

def empty : Jar := ⟨[]⟩

/-- The cookies in order. -/
def toList (jar : Jar) : List Cookie :=
  jar.domains.flatMap fun (_, paths) => paths.flatMap fun (_, names) => names.map (·.2)

/-- The jar with a cookie set. -/
def set (jar : Jar) (cookie : Cookie) : Jar :=
  ⟨OrderedMap.alter cookie.domain (fun paths =>
    OrderedMap.alter cookie.path (fun names =>
      OrderedMap.insert (names.getD []) cookie.name cookie) (paths.getD [])) jar.domains⟩

def ofList (cookies : List Cookie) : Jar := cookies.foldl set empty

/-- The jar without the cookies that have expired. -/
def purge (now : Int) (jar : Jar) : Jar :=
  ⟨jar.domains.map fun (domain, paths) =>
    (domain, paths.map fun (path, names) =>
      (path, names.filter fun (_, cookie) => !cookie.isExpired now))⟩

/-- The cookies that are sent to a host for a path. -/
def select (jar : Jar) (host path : Text) (overTls : Bool) : List Cookie :=
  jar.toList.filter (·.applies host path overTls)

/-- The header fields that send the selected cookies; those that cannot be sent are left out. -/
def fields (jar : Jar) (host path : Text) (overTls : Bool) : Headers :=
  (jar.select host path overTls).filterMap fun cookie => cookie.field.toOption

/-- Why selected cookies are left out. -/
def omissions (jar : Jar) (host path : Text) (overTls : Bool) : List Failure :=
  (jar.select host path overTls).filterMap fun cookie =>
    match cookie.field with
    | .ok _ => none
    | .error failure => some failure

/-- What storing some values did: how many set a cookie, how many did not, and the failure that
ended it, if one did. -/
structure Stored where
  jar : Jar
  stored : Nat
  ignored : Nat
  failure : Option Failure

/-- A Set-Cookie value and what the clock shows when it is read. -/
structure Offer where
  now : Int
  value : Text

/-- The jar with the cookies that a host's Set-Cookie values set, one after the other. -/
def store (host : Text) : List Offer → Jar → Stored
  | [], jar => ⟨jar, 0, 0, none⟩
  | offer :: offers, jar =>
    match SetCookie.parse offer.now host offer.value with
    | .error failure => ⟨jar, 0, 0, some failure⟩
    | .ok none =>
      let rest := store host offers jar
      { rest with ignored := rest.ignored + 1 }
    | .ok (some cookie) =>
      let rest := store host offers (jar.set cookie)
      { rest with stored := rest.stored + 1 }

end Jar

end HttpFetch
