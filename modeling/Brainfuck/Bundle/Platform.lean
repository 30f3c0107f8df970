import Brainfuck.Bundle.Shape

/-!
The parts of a container's specification that are checked and not used: mounts, hooks, the
attributes of the process that need a kernel, and the settings of each platform.
-/

namespace Brainfuck.Bundle.Platform

open Shape

def texts : Shape := list text

section Processes

def consoleSize : Shape :=
  record [("height", unsigned 64), ("width", unsigned 64)]

def capabilities : Shape :=
  record [("bounding", texts), ("effective", texts), ("inheritable", texts), ("permitted", texts),
    ("ambient", texts)]

def resourceLimit : Shape :=
  record [("type", text), ("hard", unsigned 64), ("soft", unsigned 64)]

def scheduler : Shape :=
  record [("policy", text), ("nice", signed 32), ("priority", signed 32), ("flags", texts),
    ("runtime", unsigned 64), ("deadline", unsigned 64), ("period", unsigned 64)]

def ioPriority : Shape :=
  record [("class", text), ("priority", signed 64)]

def cpuAffinity : Shape :=
  record [("initial", text), ("final", text)]

def user : Shape :=
  record [("uid", unsigned 32), ("gid", unsigned 32), ("umask", unsigned 32),
    ("additionalGids", list (unsigned 32)), ("username", text)]

end Processes

section Lifecycle

def idMapping : Shape :=
  record [("containerID", unsigned 32), ("hostID", unsigned 32), ("size", unsigned 32)]

def mount : Shape :=
  record [("destination", text), ("type", text), ("source", text), ("options", texts),
    ("uidMappings", list idMapping), ("gidMappings", list idMapping)]

def hook : Shape :=
  record [("path", text), ("args", texts), ("env", texts), ("timeout", signed 64)]

def hooks : Shape :=
  record [("prestart", list hook), ("createRuntime", list hook), ("createContainer", list hook),
    ("startContainer", list hook), ("poststart", list hook), ("poststop", list hook)]

def namespaces : Shape :=
  list (record [("type", text), ("path", text)])

end Lifecycle

namespace Linux

def deviceRule : Shape :=
  record [("allow", bool), ("type", text), ("major", signed 64), ("minor", signed 64),
    ("access", text)]

def memory : Shape :=
  record [("limit", signed 64), ("reservation", signed 64), ("swap", signed 64),
    ("kernel", signed 64), ("kernelTCP", signed 64), ("swappiness", unsigned 64),
    ("disableOOMKiller", bool), ("useHierarchy", bool), ("checkBeforeUpdate", bool)]

def cpu : Shape :=
  record [("shares", unsigned 64), ("quota", signed 64), ("burst", unsigned 64),
    ("period", unsigned 64), ("realtimeRuntime", signed 64), ("realtimePeriod", unsigned 64),
    ("cpus", text), ("mems", text), ("idle", signed 64)]

def pids : Shape :=
  record [("limit", signed 64)]

def weightDevice : Shape :=
  record [("major", signed 64), ("minor", signed 64), ("weight", unsigned 16),
    ("leafWeight", unsigned 16)]

def throttleDevices : Shape :=
  list (record [("major", signed 64), ("minor", signed 64), ("rate", unsigned 64)])

def blockIo : Shape :=
  record [("weight", unsigned 16), ("leafWeight", unsigned 16),
    ("weightDevice", list weightDevice), ("throttleReadBpsDevice", throttleDevices),
    ("throttleWriteBpsDevice", throttleDevices), ("throttleReadIOPSDevice", throttleDevices),
    ("throttleWriteIOPSDevice", throttleDevices)]

def hugepageLimit : Shape :=
  record [("pageSize", text), ("limit", unsigned 64)]

def network : Shape :=
  record [("classID", unsigned 32),
    ("priorities", list (record [("name", text), ("priority", unsigned 32)]))]

def rdma : Shape :=
  record [("hcaHandles", unsigned 32), ("hcaObjects", unsigned 32)]

def resources : Shape :=
  record [("devices", list deviceRule), ("memory", memory), ("cpu", cpu), ("pids", pids),
    ("blockIO", blockIo), ("hugepageLimits", list hugepageLimit), ("network", network),
    ("rdma", table rdma), ("unified", table text)]

def device : Shape :=
  record [("path", text), ("type", text), ("major", signed 64), ("minor", signed 64),
    ("fileMode", unsigned 32), ("uid", unsigned 32), ("gid", unsigned 32)]

def systemCallArgument : Shape :=
  record [("index", unsigned 64), ("value", unsigned 64), ("valueTwo", unsigned 64), ("op", text)]

def systemCalls : Shape :=
  record [("names", texts), ("action", text), ("errnoRet", unsigned 64),
    ("args", list systemCallArgument)]

def seccomp : Shape :=
  record [("defaultAction", text), ("defaultErrnoRet", unsigned 64), ("architectures", texts),
    ("flags", texts), ("listenerPath", text), ("listenerMetadata", text),
    ("syscalls", list systemCalls)]

def intelRdt : Shape :=
  record [("closID", text), ("l3CacheSchema", text), ("memBwSchema", text), ("enableCMT", bool),
    ("enableMBM", bool)]

def personality : Shape :=
  record [("domain", text), ("flags", texts)]

def timeOffset : Shape :=
  record [("secs", signed 64), ("nanosecs", unsigned 32)]

def settings : Shape :=
  record [("uidMappings", list idMapping), ("gidMappings", list idMapping),
    ("sysctl", table text), ("resources", resources), ("cgroupsPath", text),
    ("namespaces", namespaces), ("devices", list device), ("seccomp", seccomp),
    ("rootfsPropagation", text), ("maskedPaths", texts), ("readonlyPaths", texts),
    ("mountLabel", text), ("intelRdt", intelRdt), ("personality", personality),
    ("timeOffsets", table timeOffset)]

end Linux

namespace Solaris

def interface : Shape :=
  record [("linkname", text), ("lowerLink", text), ("allowedAddress", text),
    ("configureAllowedAddress", text), ("defrouter", text), ("linkProtection", text),
    ("macAddress", text)]

def settings : Shape :=
  record [("milestone", text), ("limitpriv", text), ("maxShmMemory", text),
    ("anet", list interface), ("cappedCPU", record [("ncpus", text)]),
    ("cappedMemory", record [("physical", text), ("swap", text)])]

end Solaris

namespace Windows

def processorGroup : Shape :=
  record [("mask", unsigned 64), ("group", unsigned 32)]

def cpu : Shape :=
  record [("count", unsigned 64), ("shares", unsigned 16), ("maximum", unsigned 16),
    ("affinity", list processorGroup)]

def storage : Shape :=
  record [("iops", unsigned 64), ("bps", unsigned 64), ("sandboxSize", unsigned 64)]

def resources : Shape :=
  record [("memory", record [("limit", unsigned 64)]), ("cpu", cpu), ("storage", storage)]

def network : Shape :=
  record [("endpointList", texts), ("allowUnqualifiedDNSQuery", bool), ("DNSSearchList", texts),
    ("networkSharedContainerName", text), ("networkNamespace", text)]

def settings : Shape :=
  record [("layerFolders", texts), ("devices", list (record [("id", text), ("idType", text)])),
    ("resources", resources), ("credentialSpec", free), ("servicing", bool),
    ("ignoreFlushesDuringBoot", bool), ("hyperv", record [("utilityVMPath", text)]),
    ("network", network)]

end Windows

section VirtualMachines

def hypervisor : Shape :=
  record [("path", text), ("parameters", texts)]

def kernel : Shape :=
  record [("path", text), ("parameters", texts), ("initrd", text)]

def image : Shape :=
  record [("path", text), ("format", text)]

def virtualMachine : Shape :=
  record [("hypervisor", hypervisor), ("kernel", kernel), ("image", image)]

end VirtualMachines

def zos : Shape :=
  record [("namespaces", namespaces)]

end Brainfuck.Bundle.Platform
