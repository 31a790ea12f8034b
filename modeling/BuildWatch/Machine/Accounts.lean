/-! The users that every machine has, and the files that list them. -/

namespace BuildWatch.Machine

structure Account where
  name : String
  user : Nat
  group : Nat
  remark : String
  home : String
  shell : String := "/usr/sbin/nologin"
  deriving Inhabited

namespace Account

def all : List Account :=
  [⟨"root", 0, 0, "root", "/root", "/bin/bash"⟩, { name := "daemon", user := 1, group := 1, remark := "daemon", home := "/usr/sbin" },
    { name := "bin", user := 2, group := 2, remark := "bin", home := "/bin" },
    { name := "sys", user := 3, group := 3, remark := "sys", home := "/dev" }, ⟨"sync", 4, 65534, "sync", "/bin", "/bin/sync"⟩,
    { name := "games", user := 5, group := 60, remark := "games", home := "/usr/games" },
    { name := "man", user := 6, group := 12, remark := "man", home := "/var/cache/man" },
    { name := "lp", user := 7, group := 7, remark := "lp", home := "/var/spool/lpd" },
    { name := "mail", user := 8, group := 8, remark := "mail", home := "/var/mail" },
    { name := "news", user := 9, group := 9, remark := "news", home := "/var/spool/news" },
    { name := "uucp", user := 10, group := 10, remark := "uucp", home := "/var/spool/uucp" },
    { name := "proxy", user := 13, group := 13, remark := "proxy", home := "/bin" },
    { name := "www-data", user := 33, group := 33, remark := "www-data", home := "/var/www" },
    { name := "backup", user := 34, group := 34, remark := "backup", home := "/var/backups" },
    { name := "list", user := 38, group := 38, remark := "Mailing List Manager", home := "/var/list" },
    { name := "irc", user := 39, group := 39, remark := "ircd", home := "/run/ircd" },
    { name := "_apt", user := 42, group := 65534, remark := "", home := "/nonexistent" },
    { name := "nobody", user := 65534, group := 65534, remark := "nobody", home := "/nonexistent" }]

def home? (name : String) : Option String := (all.find? (·.name == name)).map (·.home)

def line (account : Account) : String :=
  s!"{account.name}:x:{account.user}:{account.group}:{account.remark}:{account.home}:{account.shell}\n"

/-- The file of all users. -/
def users : String := String.join (all.map line)

def groupNames : List (String × Nat) :=
  [("root", 0), ("daemon", 1), ("bin", 2), ("sys", 3), ("adm", 4), ("tty", 5), ("disk", 6), ("lp", 7), ("mail", 8),
    ("news", 9), ("uucp", 10), ("man", 12), ("proxy", 13), ("kmem", 15), ("dialout", 20), ("fax", 21), ("voice", 22),
    ("cdrom", 24), ("floppy", 25), ("tape", 26), ("sudo", 27), ("audio", 29), ("dip", 30), ("www-data", 33), ("backup", 34),
    ("operator", 37), ("list", 38), ("irc", 39), ("src", 40), ("shadow", 42), ("utmp", 43), ("video", 44), ("sasl", 45),
    ("plugdev", 46), ("staff", 50), ("games", 60), ("users", 100), ("nogroup", 65534)]

/-- The file of all groups. -/
def groups : String := String.join (groupNames.map fun (name, number) => s!"{name}:x:{number}:\n")

end Account

end BuildWatch.Machine
