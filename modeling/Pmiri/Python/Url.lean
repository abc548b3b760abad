import Pmiri.Python.Ipaddress

/-!
# `urllib.parse.urlsplit`

Splitting a URL into scheme, network location, path, query and fragment, and
reading user information, host and port out of the network location.
-/

namespace Py

/-- `urllib.parse.SplitResult` -/
structure SplitResult where
  scheme : List Char
  netloc : List Char
  path : List Char
  query : List Char
  fragment : List Char
deriving DecidableEq

/-- A character of a URL scheme. -/
def isSchemeChar (c : Char) : Bool := isAsciiAlpha c || isAsciiDigit c || c == '+' || c == '-' || c == '.'

/-- `_splitnetloc`: the network location ends at the first of `/?#`. -/
def splitNetloc (cs : List Char) : List Char × List Char :=
  (cs.takeWhile (fun c => !(['/', '?', '#'].contains c)), cs.dropWhile (fun c => !(['/', '?', '#'].contains c)))

/-- `_check_bracketed_host` accepts: an IPvFuture literal or an IPv6 address. -/
def bracketedHostOk (host : List Char) : Bool :=
  match host with
  | 'v' :: rest =>
    let (version, tail, dot) := partition '.' rest
    dot && !version.isEmpty && version.all (fun c => (hexValue c).isSome) && !tail.isEmpty && !tail.contains '\n'
  | _ =>
    match IpAddress.read (String.ofList host) with
    | some (.v6 ..) => true
    | _ => false

/-- `_checknetloc` accepts: NFKC does not bring in a delimiter. -/
def netlocOk [Runtime] (netloc : List Char) : Bool :=
  if isAscii netloc then true
  else
    let n := netloc.filter (fun c => !(['@', ':', '#', '?'].contains c))
    let n' := Runtime.nfkc n
    n == n' || !n'.any (fun c => ['/', '?', '#', '@', ':'].contains c)

/-- `urlsplit(url)`; `none` where it raises `ValueError`. -/
def urlsplit [Runtime] (url : List Char) : Option SplitResult :=
  let url := (lstrip (fun c => c.toNat ≤ 32) url).filter (fun c => c != '\t' && c != '\r' && c != '\n')
  let (scheme, url) :=
    match partition ':' url with
    | (s, rest, true) =>
      if (s.head?.map isAsciiAlpha).getD false && s.all isSchemeChar then (s.map lowerAscii, rest) else ([], url)
    | _ => ([], url)
  let (netloc, url) := if url.take 2 == ['/', '/'] then splitNetloc (url.drop 2) else ([], url)
  let openBr := netloc.contains '['
  let closeBr := netloc.contains ']'
  let host := (partition ']' (partition '[' netloc).2.1).1
  if openBr != closeBr || (openBr && closeBr && !bracketedHostOk host) then none
  else
    let (url, fragment, _) := partition '#' url
    let (path, query, _) := partition '?' url
    if netlocOk netloc then some ⟨scheme, netloc, path, query, fragment⟩ else none

namespace SplitResult

/-- `_userinfo`: user name and password, where there are any. -/
def userinfo (r : SplitResult) : Option (List Char) × Option (List Char) :=
  match rpartition '@' r.netloc with
  | (userinfo, _, true) =>
    match partition ':' userinfo with
    | (user, password, true) => (some user, some password)
    | (user, _, false) => (some user, none)
  | _ => (none, none)

/-- `_hostinfo`: the host and the port as text, the port only if not empty. -/
def hostinfo (r : SplitResult) : List Char × Option (List Char) :=
  let hostinfo := (rpartition '@' r.netloc).2.1
  let (host, port) :=
    match partition '[' hostinfo with
    | (_, bracketed, true) =>
      let (host, rest, _) := partition ']' bracketed
      (host, (partition ':' rest).2.1)
    | _ =>
      let (host, port, _) := partition ':' hostinfo
      (host, port)
  (host, if port.isEmpty then none else some port)

/-- `hostname` -/
def hostname [Runtime] (r : SplitResult) : Option (List Char) :=
  let host := r.hostinfo.1
  if host.isEmpty then none
  else
    let (name, zone, percent) := partition '%' host
    some (lower name ++ (if percent then '%' :: zone else []))

/-- `port`; the outer `none` where it raises `ValueError`. -/
def port (r : SplitResult) : Option (Option Nat) :=
  match r.hostinfo.2 with
  | none => some none
  | some p => if p.all isAsciiDigit && decNumber p ≤ 65535 then some (some (decNumber p)) else none

end SplitResult

end Py
