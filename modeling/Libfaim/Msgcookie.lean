import Libfaim.Lib.HeapList
import Libfaim.TxQueue

/-!
# Message cookies (`msgcookie.c`)

The session keeps message cookies in a list whose cells are the structs themselves. The structs in
memory are a heap, `none` where none is live, and whatever reads or frees one that is not live has
no result. Which address `calloc` returns is a parameter, and what `data` points to is only known by
its address; the addresses given to `free` are on record (`Cookies.freed`).
-/

namespace Libfaim

open HeapList

abbrev CookiePtr := Nat

/-- The eight bytes of a cookie. -/
abbrev Cookie := Vector UInt8 8

def aimCookietypeOftim : Int := 0x10
def aimCookietypeOftget : Int := 0x11
def aimCookietypeOftsend : Int := 0x12

/-- `aim_msgcookie_t` -/
structure AimMsgcookie where
  cookie : Cookie
  type : Int
  data : Nat
  addtime : Int
  next : CookiePtr
  deriving DecidableEq

/-- `sess->msgcookies` and the structs in memory. -/
structure Cookies where
  msgcookies : CookiePtr
  mem : CookiePtr → Option AimMsgcookie
  /-- how many structs `calloc` has returned so far, which no list is longer than -/
  allocs : Nat
  /-- what `free(cookie->data)` was called with -/
  freed : List Nat

def cookiesInit : Cookies := ⟨0, fun _ => none, 0, []⟩

/-- A cookie with its type. -/
abbrev CookieKey := Cookie × Int

def AimMsgcookie.key (cook : AimMsgcookie) : CookieKey := (cook.cookie, cook.type)

namespace Cookies

variable (s : Cookies)

/-- `*prev` -/
def link (prev : Link CookiePtr) : Option CookiePtr :=
  deref AimMsgcookie.next s.msgcookies s.mem prev

/-- `*prev = q` -/
def setLink (prev : Link CookiePtr) (q : CookiePtr) : Cookies :=
  let r := HeapList.setLink (fun cook q => { cook with next := q }) q prev (s.msgcookies, s.mem)
  { s with msgcookies := r.1, mem := r.2 }

def setCookie (p : CookiePtr) (cook : AimMsgcookie) : Cookies :=
  { s with mem := Function.update s.mem p (some cook) }

end Cookies

/-! ## Looking up -/

section Check

variable (s : Cookies) (cookie : Cookie) (type : Int)

/-- One pass of the loop of `aim_checkcookie`. -/
def aimCheckcookiePass (cur : CookiePtr) : Loop.Pass CookiePtr CookiePtr :=
  if cur = 0 then .leave 0
  else
    match s.mem cur with
    | none => .stuck
    | some cook =>
      if cook.type = type ∧ cook.cookie = cookie then .leave cur else .again cook.next

/-- `aim_checkcookie` -/
def aimCheckcookie : Option CookiePtr :=
  Loop.run (aimCheckcookiePass s cookie type) (s.allocs + 1) s.msgcookies

/-! ## Removing -/

/-- One pass of the loop of `aim_uncachecookie`. -/
def aimUncachecookiePass (prev : Link CookiePtr) :
    Loop.Pass (Link CookiePtr) (CookiePtr × Cookies) :=
  match s.link prev with
  | none => .stuck
  | some cur =>
    if cur = 0 then .leave (0, s)
    else
      match s.mem cur with
      | none => .stuck
      | some cook =>
        if cook.type = type ∧ cook.cookie = cookie then .leave (cur, s.setLink prev cook.next)
        else .again (.next cur)

end Check

/-- `aim_uncachecookie`; `none` is a null `cookie`. -/
def aimUncachecookie (cookie : Option Cookie) (type : Int) (s : Cookies) :
    Option (CookiePtr × Cookies) :=
  match cookie with
  | none => some (0, s)
  | some cookie =>
    if s.msgcookies = 0 then some (0, s)
    else Loop.run (aimUncachecookiePass s cookie type) (s.allocs + 1) .head

/-- One pass of the loop of `aim_cookie_free`. After a struct has been taken out, the link is looked
at again. -/
def aimCookieFreePass (cookie : CookiePtr) :
    Link CookiePtr × Cookies → Loop.Pass (Link CookiePtr × Cookies) Cookies
  | (prev, s) =>
    match s.link prev with
    | none => .stuck
    | some cur =>
      if cur = 0 then .leave s
      else if cur = cookie then
        match s.mem cur with
        | none => .stuck
        | some cook => .again (prev, s.setLink prev cook.next)
      else .again (.next cur, s)

/-- `free(cookie->data); free(cookie);` -/
def freeCookie (cookie : CookiePtr) (s : Cookies) : Option Cookies :=
  match s.mem cookie with
  | none => none
  | some cook =>
    some { s with
      mem := Function.update s.mem cookie none
      freed := s.freed ++ [cook.data] }

/-- `aim_cookie_free` -/
def aimCookieFree (cookie : CookiePtr) (s : Cookies) : Option (Int × Cookies) :=
  if cookie = 0 then some (-einval, s)
  else
    match Loop.run (aimCookieFreePass cookie) (s.allocs + 1) (.head, s) with
    | none => none
    | some s => (freeCookie cookie s).map fun s => (0, s)

/-! ## Making and caching -/

/-- `aim_mkcookie`, where `calloc` returns `p`. A null `c` is `none`. -/
def aimMkcookie (p : CookiePtr) (c : Option Cookie) (type : Int) (data : Nat) (s : Cookies) :
    CookiePtr × Cookies :=
  match c with
  | none => (0, s)
  | some c =>
    if p = 0 then (0, s)
    else (p, { s.setCookie p ⟨c, type, data, 0, 0⟩ with allocs := s.allocs + 1 })

/-- The end of `aim_cachecookie`: the struct is put in front of the list. -/
def pushCookie (now : Int) (cookie : CookiePtr) (s : Cookies) : Option Cookies :=
  match s.mem cookie with
  | none => none
  | some cook =>
    some { s.setCookie cookie { cook with addtime := now, next := s.msgcookies } with
      msgcookies := cookie }

/-- `aim_cachecookie` -/
def aimCachecookie (now : Int) (cookie : CookiePtr) (s : Cookies) : Option (Int × Cookies) :=
  if cookie = 0 then some (-einval, s)
  else
    match s.mem cookie with
    | none => none
    | some cook =>
      match aimCheckcookie s cook.cookie cook.type with
      | none => none
      | some newcook =>
        if newcook = cookie then some (1, s.setCookie cookie { cook with addtime := now })
        else if newcook ≠ 0 then
          match aimCookieFree newcook s with
          | none => none
          | some (_, s) => (pushCookie now cookie s).map fun s => (0, s)
        else (pushCookie now cookie s).map fun s => (0, s)

end Libfaim
