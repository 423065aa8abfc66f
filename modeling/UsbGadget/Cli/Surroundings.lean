/-
# What surrounds the working folder

The folders, links and files that a command meets outside of the working folder.
No file there holds JSON, and so a command has no use for its text: every file
that can be read to its end is taken as empty.

| file | read | written |
| --- | --- | --- |
| `/proc/self/fd/1`, where `/dev/stdout` leads | empty | printed |
| `/dev/full` | empty | no space is left |
| `/dev/tty` | there is no terminal | there is no terminal |
| any other | empty | out of sight |

Every folder takes new files but those that the system fills by itself.
-/

import UsbGadget.Cli.Path

namespace UsbGadget

/-- Where a text goes that is written to a file. -/
inductive Sink where
  | file
  | output
  deriving DecidableEq, Repr

/-- A file: the text that is read from it, and where a text goes that is written to it. -/
structure File where
  text : Except FileError String := .ok ""
  sink : Except FileError Sink := .ok .file

namespace Surroundings

/-- The place of a path from the root that goes down only. -/
def place (path : String) : Place := { start := .root, names := Path.components path }

/-- The folders below the root. -/
def folders : List Place :=
  ["/boot", "/dev", "/dev/pts", "/dev/shm", "/etc", "/etc/apt", "/etc/default", "/etc/init.d",
    "/etc/opt", "/etc/profile.d", "/etc/security", "/etc/skel", "/etc/ssl", "/home", "/media",
    "/mnt", "/opt", "/proc", "/proc/1", "/proc/self", "/proc/self/fd", "/proc/sys",
    "/proc/sys/kernel", "/root", "/run", "/run/lock", "/srv", "/sys", "/sys/bus", "/sys/class",
    "/sys/devices", "/sys/fs", "/sys/kernel", "/tmp", "/usr", "/usr/bin", "/usr/games",
    "/usr/include", "/usr/lib", "/usr/lib64", "/usr/libexec", "/usr/local", "/usr/local/bin",
    "/usr/local/etc", "/usr/local/lib", "/usr/local/sbin", "/usr/local/share", "/usr/local/src",
    "/usr/sbin", "/usr/share", "/usr/share/doc", "/usr/src", "/var", "/var/backups", "/var/cache",
    "/var/lib", "/var/local", "/var/log", "/var/mail", "/var/opt", "/var/spool", "/var/tmp"].map
    place

/-- The links, and where they lead. -/
def links : List (Place × Place) :=
  [("/bin", "/usr/bin"), ("/sbin", "/usr/sbin"), ("/lib", "/usr/lib"), ("/lib64", "/usr/lib64"),
    ("/dev/fd", "/proc/self/fd"), ("/dev/stdin", "/proc/self/fd/0"),
    ("/dev/stdout", "/proc/self/fd/1"), ("/dev/stderr", "/proc/self/fd/2"),
    ("/proc/self/root", "/"), ("/proc/mounts", "/proc/self/mounts"),
    ("/etc/mtab", "/proc/self/mounts"), ("/var/run", "/run"), ("/var/lock", "/run/lock")].map
    (fun l => (place l.1, place l.2)) ++ [(place "/proc/self/cwd", .working)]

/-- The files that neither print nor refuse what is written. -/
def plainFiles : List Place :=
  ["/dev/null", "/dev/random", "/dev/urandom", "/dev/zero", "/etc/bash.bashrc",
    "/etc/debian_version", "/etc/environment", "/etc/fstab", "/etc/group", "/etc/gshadow",
    "/etc/host.conf", "/etc/hostname", "/etc/hosts", "/etc/issue", "/etc/issue.net",
    "/etc/ld.so.cache", "/etc/ld.so.conf", "/etc/localtime", "/etc/login.defs", "/etc/machine-id",
    "/etc/nsswitch.conf", "/etc/os-release", "/etc/passwd", "/etc/profile", "/etc/resolv.conf",
    "/etc/services", "/etc/shadow", "/etc/shells", "/etc/timezone", "/proc/cmdline",
    "/proc/cpuinfo", "/proc/filesystems", "/proc/loadavg", "/proc/meminfo", "/proc/self/cmdline",
    "/proc/self/environ", "/proc/self/exe", "/proc/self/fd/0", "/proc/self/fd/2",
    "/proc/self/maps", "/proc/self/mounts", "/proc/self/stat", "/proc/self/status", "/proc/stat",
    "/proc/uptime", "/proc/version", "/usr/bin/bash", "/usr/bin/cat", "/usr/bin/cp",
    "/usr/bin/date", "/usr/bin/echo", "/usr/bin/env", "/usr/bin/false", "/usr/bin/grep",
    "/usr/bin/ls", "/usr/bin/mv", "/usr/bin/rm", "/usr/bin/sh", "/usr/bin/sleep", "/usr/bin/test",
    "/usr/bin/true", "/usr/lib/os-release"].map place

/-- The file at a place. -/
def file? (p : Place) : Option File :=
  if p = place "/proc/self/fd/1" then some { sink := .ok .output }
  else if p = place "/dev/full" then some { sink := .error .noSpace }
  else if p = place "/dev/tty" then
    some { text := .error .noSuchDevice, sink := .error .noSuchDevice }
  else if plainFiles.contains p then some {}
  else none

/-- Whether there is a folder at a place. -/
def isFolder (p : Place) : Bool := p.names.isEmpty || folders.contains p

/-- Why no file can be made in a folder, if none can. -/
def refusal? (folder : Place) : Option FileError :=
  match folder.start, folder.names with
  | .root, "proc" :: _ => some .missing
  | .root, "sys" :: _ => some .permissionDenied
  | .root, ["dev", "pts"] => some .permissionDenied
  | _, _ => none

/-- The place that a link leads to, or the place itself. -/
def resolve (p : Place) : Place := ((links.find? fun l => l.1 = p).map (·.2)).getD p

/-- The place that a component leads to from a folder. -/
def enter (p : Place) (component : String) : Place :=
  if component = "." then p
  else if component = ".." then p.parent
  else resolve (p.child component)

end Surroundings
end UsbGadget
